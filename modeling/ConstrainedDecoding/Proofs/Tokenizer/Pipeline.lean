import ConstrainedDecoding.Tokenizer.Detect
import Mathlib.Logic.Relation

/-! Encodings are told from the steps that a tokenizer takes, and not from how its sequences hold them.
-/
namespace ConstrainedDecoding

namespace TokenEncoding

variable {key kind kind' : String} {node node' item : Json} {items : List Json} {t t' : Json}

def HasType (node : Json) (kind : String) : Prop := (node.get? "type").bind (·.text?) = some kind

def IsSequence (key : String) (node : Json) (items : List Json) : Prop :=
  HasType node "Sequence" ∧ node.get? key = some (.array items)

/-- A step of some type is found at a node, or inside of it through sequences. -/
inductive Leaf (key : String) : Json → String → Prop
  | here {node : Json} {kind : String} (htype : HasType node kind) (hne : kind ≠ "Sequence") :
    Leaf key node kind
  | inside {node item : Json} {items : List Json} {kind : String} (hseq : IsSequence key node items)
    (hitem : item ∈ items) (hleaf : Leaf key item kind) : Leaf key node kind

theorem HasType.unique (h : HasType node kind) (h' : HasType node kind') : kind = kind' :=
  Option.some.inj (h.symm.trans h')

theorem IsSequence.leaf_iff (h : IsSequence key node items) :
    Leaf key node kind ↔ ∃ item ∈ items, Leaf key item kind := by
  constructor
  · rintro (⟨htype, hne⟩ | ⟨hseq, hitem, hleaf⟩)
    · exact absurd (htype.unique h.1) hne
    · have hsame := hseq.2.symm.trans h.2
      simp only [Option.some.injEq, Json.array.injEq] at hsame
      exact ⟨_, hsame ▸ hitem, hleaf⟩
  · rintro ⟨item, hitem, hleaf⟩
    exact .inside h hitem hleaf

theorem leaf_iff_of_ne (htype : HasType node kind') (hne : kind' ≠ "Sequence") :
    Leaf key node kind ↔ kind = kind' := by
  constructor
  · rintro (⟨htype', -⟩ | ⟨hseq, -, -⟩)
    · exact htype'.unique htype
    · exact absurd (htype.unique hseq.1) hne
  · rintro rfl
    exact .here htype hne

theorem mem_stepTypes : kind ∈ stepTypes key node ↔ Leaf key node kind := by
  fun_induction stepTypes key node with
  | case1 node hnone =>
    refine iff_of_false List.not_mem_nil ?_
    rintro (⟨htype, -⟩ | ⟨hseq, -, -⟩)
    · exact nomatch hnone.symm.trans htype
    · exact nomatch hnone.symm.trans hseq.1
  | case2 node items hitems htype ih =>
    rw [IsSequence.leaf_iff ⟨htype, hitems⟩, List.mem_flatMap]
    constructor
    · rintro ⟨⟨item, hitem⟩, -, hkind⟩
      exact ⟨item, hitem, (ih item hitem).mp hkind⟩
    · rintro ⟨item, hitem, hleaf⟩
      exact ⟨⟨item, hitem⟩, List.mem_attach items _, (ih item hitem).mpr hleaf⟩
  | case3 node hitems htype =>
    -- A sequence without steps is no leaf itself.
    refine iff_of_false List.not_mem_nil ?_
    rintro (⟨htype', hne⟩ | ⟨hseq, -, -⟩)
    · exact hne (htype'.unique htype)
    · exact hitems _ hseq.2
  | case4 node kind' htype hne => rw [leaf_iff_of_ne htype hne, List.mem_singleton]

def pipeline (t : Json) (part : String) : Json := (t.get? part).getD .null

def byteFallback? (t : Json) : Option Json := (t.get? "model").bind (·.get? "byte_fallback")

/-- A tokenizer takes a step of some type before its model. -/
def StepsBefore (t : Json) (kind : String) : Prop :=
  Leaf "pretokenizers" (pipeline t "pre_tokenizer") kind

/-- A tokenizer takes a step of some type when it decodes. -/
def StepsAfter (t : Json) (kind : String) : Prop := Leaf "decoders" (pipeline t "decoder") kind

theorem contains_before :
    (stepTypes "pretokenizers" ((t.get? "pre_tokenizer").getD .null)).contains kind ↔
      StepsBefore t kind := by
  rw [List.contains_iff_mem, mem_stepTypes]
  rfl

theorem contains_after :
    (stepTypes "decoders" ((t.get? "decoder").getD .null)).contains kind ↔ StepsAfter t kind := by
  rw [List.contains_iff_mem, mem_stepTypes]
  rfl

theorem detect_of_byteLevel (h : StepsBefore t "ByteLevel" ∨ StepsAfter t "ByteLevel") :
    detect t = byteLevel := by
  rw [← contains_before, ← contains_after, ← Bool.or_eq_true] at h
  rw [detect, if_pos h]

/-- Nothing but the types of steps and the declared byte fallback counts. -/
theorem detect_congr (hfallback : byteFallback? t = byteFallback? t')
    (hbefore : ∀ kind, StepsBefore t kind ↔ StepsBefore t' kind)
    (hafter : ∀ kind, StepsAfter t kind ↔ StepsAfter t' kind) : detect t = detect t' := by
  simp only [← contains_before, ← contains_after, ← Bool.eq_iff_iff] at hbefore hafter
  have hdeclared : (do (← (← t.get? "model").get? "byte_fallback").bool?) =
      (do (← (← t'.get? "model").get? "byte_fallback").bool?) := by
    have h := congrArg (·.bind Json.bool?) hfallback
    simpa only [byteFallback?, Option.bind_assoc, Option.bind_eq_bind] using h
  simp only [detect, hbefore, hafter, hdeclared]

/-- A pipeline is written otherwise: its steps stay the same. -/
inductive Rearranges (key : String) : Json → Json → Prop
  /-- A step becomes the only one of a sequence. -/
  | wrap {node seq : Json} (h : IsSequence key seq [node]) : Rearranges key node seq
  /-- A sequence in a sequence gives its place to its steps. -/
  | flatten {seq seq' inner : Json} {xs ys zs : List Json}
    (h : IsSequence key seq (xs ++ inner :: ys)) (hinner : IsSequence key inner zs)
    (h' : IsSequence key seq' (xs ++ zs ++ ys)) : Rearranges key seq seq'
  | reorder {seq seq' : Json} {xs ys : List Json} (h : IsSequence key seq xs) (hperm : xs.Perm ys)
    (h' : IsSequence key seq' ys) : Rearranges key seq seq'
  /-- A step is taken once more. -/
  | again {seq seq' x : Json} {xs : List Json} (h : IsSequence key seq xs) (hx : x ∈ xs)
    (h' : IsSequence key seq' (x :: xs)) : Rearranges key seq seq'
  /-- One step of a sequence is written otherwise. -/
  | inside {seq seq' x y : Json} {xs ys : List Json} (h : IsSequence key seq (xs ++ x :: ys))
    (hxy : Rearranges key x y) (h' : IsSequence key seq' (xs ++ y :: ys)) : Rearranges key seq seq'
  /-- Fields other than the type and the steps change. -/
  | fields {node node' : Json} (htype : node.get? "type" = node'.get? "type")
    (hsteps : node.get? key = node'.get? key) : Rearranges key node node'

theorem Leaf.of_fields (htype : node.get? "type" = node'.get? "type")
    (hsteps : node.get? key = node'.get? key) (h : Leaf key node kind) : Leaf key node' kind := by
  cases h with
  | here h hne => exact .here (by rwa [HasType, ← htype]) hne
  | inside hseq hitem hleaf =>
    exact .inside ⟨by rw [HasType, ← htype]; exact hseq.1, hsteps ▸ hseq.2⟩ hitem hleaf

theorem Rearranges.leaf_iff (h : Rearranges key node node') :
    Leaf key node kind ↔ Leaf key node' kind := by
  induction h with
  | wrap h => simp [h.leaf_iff]
  | flatten h hinner h' =>
    simp only [h.leaf_iff, h'.leaf_iff, hinner.leaf_iff, List.mem_append, List.mem_cons, or_and_right,
      exists_or, exists_eq_left, or_assoc]
  | reorder h hperm h' => simp only [h.leaf_iff, h'.leaf_iff, hperm.mem_iff]
  | again h hx h' =>
    simp only [h.leaf_iff, h'.leaf_iff, List.mem_cons, exists_eq_or_imp, iff_or_self]
    exact fun hleaf => ⟨_, hx, hleaf⟩
  | inside h _ h' ih =>
    simp only [h.leaf_iff, h'.leaf_iff, List.mem_append, List.mem_cons, or_and_right, exists_or,
      exists_eq_left, ih]
  | fields htype hsteps =>
    exact ⟨Leaf.of_fields htype hsteps, Leaf.of_fields htype.symm hsteps.symm⟩

/-- Pipelines that can be rearranged into each other have the same leaves. -/
theorem leaf_iff_of_eqvGen (h : Relation.EqvGen (Rearranges key) node node') :
    Leaf key node kind ↔ Leaf key node' kind := by
  induction h with
  | rel _ _ h => exact h.leaf_iff
  | refl => rfl
  | symm _ _ _ ih => exact ih.symm
  | trans _ _ _ _ _ ih ih' => exact ih.trans ih'

/-- The encoding depends on the types of the steps and on the declared byte fallback. It stays the same when
pipelines are rearranged, and a byte-level step decides it wherever it stands. -/
theorem detect_steps :
    (∀ t t', byteFallback? t = byteFallback? t' →
        (∀ kind, StepsBefore t kind ↔ StepsBefore t' kind) →
        (∀ kind, StepsAfter t kind ↔ StepsAfter t' kind) → detect t = detect t') ∧
      (∀ t t', byteFallback? t = byteFallback? t' →
        Relation.EqvGen (Rearranges "pretokenizers") (pipeline t "pre_tokenizer")
          (pipeline t' "pre_tokenizer") →
        Relation.EqvGen (Rearranges "decoders") (pipeline t "decoder") (pipeline t' "decoder") →
        detect t = detect t') ∧
      ∀ t, StepsBefore t "ByteLevel" ∨ StepsAfter t "ByteLevel" → detect t = byteLevel :=
  ⟨fun _ _ => detect_congr,
    fun _ _ hfallback hbefore hafter =>
      detect_congr hfallback (fun _ => leaf_iff_of_eqvGen hbefore) fun _ => leaf_iff_of_eqvGen hafter,
    fun _ => detect_of_byteLevel⟩

def plainStep (kind : String) : Json := .object [("type", .string kind)]

def plainSequence (key : String) (items : List Json) : Json :=
  .object [("type", .string "Sequence"), (key, .array items)]

/-- A step that is taken twice, two sequences deep, and one byte-level step among others. -/
theorem detect_steps_nested :
    detect (.object [("decoder", plainStep "Replace"), ("version", .string "1.0")]) =
        detect (.object [("decoder", plainSequence "decoders"
          [plainSequence "decoders" [plainStep "Replace", plainStep "Replace"]])]) ∧
      detect (.object [("pre_tokenizer", plainSequence "pretokenizers"
        [plainStep "Split", plainSequence "pretokenizers" [plainStep "ByteLevel"]])]) = byteLevel := by
  have hdecoders (items : List Json) : IsSequence "decoders" (plainSequence "decoders" items) items :=
    ⟨rfl, rfl⟩
  have hpretokenizers (items : List Json) :
      IsSequence "pretokenizers" (plainSequence "pretokenizers" items) items := ⟨rfl, rfl⟩
  constructor
  · refine detect_steps.2.1 _ _ rfl (.refl _) ?_
    refine .trans _ (plainSequence "decoders" [plainStep "Replace"]) _ (.rel _ _ (.wrap (hdecoders _))) ?_
    refine .trans _ (plainSequence "decoders" [plainStep "Replace", plainStep "Replace"]) _
      (.rel _ _ (.again (hdecoders _) List.mem_cons_self (hdecoders _))) ?_
    exact .rel _ _ (.wrap (hdecoders _))
  · refine detect_steps.2.2 _ (.inl (.inside (hpretokenizers _) (List.mem_cons_of_mem _ List.mem_cons_self) ?_))
    exact .inside (hpretokenizers _) List.mem_cons_self (.here rfl (by decide))

end TokenEncoding

end ConstrainedDecoding
