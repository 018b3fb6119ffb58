import ConstrainedDecoding.Proofs.Automaton.Compile

/-! Compiled automata are trim, and their states are numbered canonically: trimming them once more finds
the same states in the same order. -/
namespace ConstrainedDecoding.Automaton

variable {limits : CompileLimits}

namespace Dfa

variable {d d' : Dfa} {order : List StateId}

theorem eq_of_row_eq (hclasses : d.classes = d'.classes) (hsize : d.size = d'.size)
    (hrows : d.rows.size = d.size) (hrows' : d'.rows.size = d'.size)
    (hacc : ∀ s < d.size, d.isAccepting s = d'.isAccepting s) (hrow : ∀ s < d.size, d.row s = d'.row s) :
    d = d' := by
  obtain ⟨classes, rows, accepting⟩ := d
  obtain ⟨classes', rows', accepting'⟩ := d'
  have hrows : rows = rows' := by
    refine Array.ext (hrows.trans (hsize.trans hrows'.symm)) fun s hs hs' => ?_
    have := hrow s (hrows ▸ hs)
    simpa [row, hs, hs'] using this
  have haccepting : accepting = accepting' := by
    refine Array.ext hsize fun s hs hs' => ?_
    have := hacc s hs
    simpa [isAccepting, hs, hs'] using this
  rw [Dfa.mk.injEq]
  exact ⟨hclasses, hrows, haccepting⟩

def Covered (d : Dfa) : Prop := ∀ s c, c < (d.row s).size → ∃ b, d.classes.get b = c

theorem Covered.exists_next? (h : d.Covered) {s t : StateId} (ht : t ∈ d.successors s) :
    ∃ b, d.next? s b = some t := by
  obtain ⟨c, hc, hget⟩ := Array.mem_iff_getElem.mp (mem_successors.mp ht)
  obtain ⟨b, rfl⟩ := h s c hc
  exact ⟨b, by rw [next?, Array.getElem?_eq_getElem hc, hget]; rfl⟩

theorem Covered.exists_walk? (h : d.Covered) {n s t : ℕ}
    (hpath : Relation.ReflTransGen (Edge n d.successors) s t) : ∃ w, d.walk? s w = some t := by
  induction hpath using Relation.ReflTransGen.head_induction_on with
  | refl => exact ⟨[], rfl⟩
  | head he _ ih =>
    obtain ⟨b, hb⟩ := h.exists_next? he.1
    obtain ⟨w, hw⟩ := ih
    exact ⟨b :: w, by rw [walk?_cons, hb]; exact hw⟩

theorem covered_of_determinize {nfa : Nfa} (h : determinize limits nfa = .ok d) : d.Covered := by
  obtain ⟨start, found, -, hf, hd⟩ := determinize_eq_ok h
  intro s c hc
  have hs : s < found.sets.size := by
    by_contra hs
    rw [row_of_le (by rw [hd]; exact hf.count.trans_le (not_lt.mp hs))] at hc
    exact Nat.not_lt_zero c hc
  obtain ⟨row, hrow, hr⟩ := hf.filled s _ (Array.getElem?_eq_getElem hs) hs
  have hsize : row.size = (ByteClasses.ofNfa nfa).representatives.size := by
    simpa using hr.length_eq.symm
  have hc : c < (ByteClasses.ofNfa nfa).representatives.size := by
    simpa [hd, Dfa.row, Array.getD_eq_getD_getElem?, hrow, hsize] using hc
  have hclasses : d.classes = .ofNfa nfa := by rw [hd]
  rw [hclasses]
  exact ByteClasses.exists_get_eq nfa hc

namespace Trims

theorem exists_getElem? (h : Trims d d' order) {k : ℕ} (hk : k < d'.size) : ∃ s, order[k]? = some s :=
  ⟨_, List.getElem?_eq_getElem (h.size_eq ▸ hk)⟩

theorem covered (h : Trims d d' order) (hd : d.Covered) : d'.Covered := by
  intro k c hc
  by_cases hk : k < d'.size
  · obtain ⟨s, hs⟩ := h.exists_getElem? hk
    rw [h.row hs, Array.size_map] at hc
    rw [h.classes]
    exact hd s c hc
  · rw [row_of_le (h.size_rows ▸ not_lt.mp hk)] at hc
    exact absurd hc (Nat.not_lt_zero c)

/-- The successors of a kept state are its kept successors, under their numbers. -/
theorem successors_eq (h : Trims d d' order) {k s : ℕ} (hk : order[k]? = some s) :
    d'.successors k = ((d.successors s).filter (· ∈ order)).map order.idxOf := by
  have hidx (t : StateId) : order.idxOf? t = if t ∈ order then some (order.idxOf t) else none := by
    split
    · exact (idxOf?_eq_some_iff_of_nodup h.numbered.nodup).mpr (List.getElem?_idxOf ‹_›)
    · rwa [List.idxOf?_eq_none_iff]
  have hfilter (l : List StateId) :
      l.filterMap order.idxOf? = (l.filter (· ∈ order)).map order.idxOf := by
    induction l with
    | nil => rfl
    | cons t l ih => by_cases ht : t ∈ order <;> simp [hidx t, ht, ih]
  rw [← hfilter, successors, successors, h.row hk, Array.toList_map, List.filterMap_map,
    List.filterMap_filterMap]
  rfl

/-- The numbers stand in breadth-first order themselves. -/
theorem renumbered (h : Trims d d' order) :
    BreadthFirst d'.successors Dfa.start (List.range d'.size) := by
  have hmap : BreadthFirst d'.successors (order.idxOf Dfa.start) (order.map order.idxOf) :=
    h.numbered.map (fun i hi j _ hij => (List.idxOf_inj hi).mp hij)
      (fun i hi => h.successors_eq (List.getElem?_idxOf hi))
  have hstart : order.idxOf Dfa.start = Dfa.start := by
    obtain ⟨hlt, hget⟩ := List.getElem?_eq_some_iff.mp h.start
    have := h.numbered.nodup.idxOf_getElem 0 hlt
    rwa [hget] at this
  have hrange : order.map order.idxOf = List.range d'.size := by
    rw [h.size_eq]
    refine List.ext_getElem (by simp) fun k hk _ => ?_
    simp [h.numbered.nodup.idxOf_getElem]
  rwa [hstart, hrange] at hmap

theorem successors_lt (h : Trims d d' order) {s t : StateId} (ht : t ∈ d'.successors s) :
    t < d'.size := by
  by_cases hs : s < d'.size
  · obtain ⟨u, hu⟩ := h.exists_getElem? hs
    rw [h.successors_eq hu, List.mem_map] at ht
    obtain ⟨v, hv, rfl⟩ := ht
    rw [h.size_eq]
    exact List.idxOf_lt_length_of_mem (by simpa using (List.mem_filter.mp hv).2)
  · simp [successors, row_of_le (h.size_rows ▸ not_lt.mp hs)] at ht

theorem reached (h : Trims d d' order) {k : ℕ} (hk : k < d'.size) :
    Reached d'.size d'.successors [Dfa.start] k :=
  (h.renumbered.mem_iff h.wellFormed.start_lt (fun _ _ => h.successors_lt) k).mp (List.mem_range.mpr hk)

theorem live (h : Trims d d' order) {k : ℕ} (hk : k < d'.size) : d'.Live k := by
  obtain ⟨s, hs⟩ := h.exists_getElem? hk
  obtain ⟨⟨hlt, t, ht, hpath⟩, hreached⟩ := (h.mem_iff s).mp (List.mem_of_getElem? hs)
  induction hpath using Relation.ReflTransGen.head_induction_on generalizing k with
  | refl => exact ⟨hk, k, by rw [h.isAccepting_eq hs, ht], .refl⟩
  | @head s u he hrest ih =>
    have hu := hreached.step he.1 he.2
    have hmem : u ∈ order := (h.mem_iff u).mpr ⟨⟨he.2, t, ht, hrest⟩, hu⟩
    have hedge : order.idxOf u ∈ d'.successors k := by
      rw [h.successors_eq hs]
      exact List.mem_map_of_mem (List.mem_filter.mpr ⟨he.1, by simpa using hmem⟩)
    have hlt' := h.successors_lt hedge
    obtain ⟨-, v, hv, hpath⟩ := ih hlt' (List.getElem?_idxOf hmem) hu he.2
    exact ⟨hk, v, hv, hpath.head ⟨hedge, hlt'⟩⟩

/-- Row by row, the table leads to the states in the order of their numbers. -/
theorem targets_eq (h : Trims d d' order) :
    ((d'.rows.toList.flatMap fun row => row.toList.filterMap id).filter (· ≠ Dfa.start)).eraseDups =
      List.range' 1 (d'.size - 1) := by
  have hrows : d'.rows.toList = (List.range d'.size).map d'.row := by
    refine List.ext_getElem (by simp [h.size_rows]) fun s hs _ => ?_
    rw [Array.length_toList] at hs
    simp [Dfa.row, hs]
  have hrange : List.range d'.size = Dfa.start :: List.range' 1 (d'.size - 1) := by
    obtain ⟨n, hn⟩ := Nat.exists_eq_succ_of_ne_zero (Nat.ne_zero_of_lt h.wellFormed.start_lt)
    rw [hn, List.range_eq_range', List.range'_succ]
    rfl
  have hfilter (l : List StateId) : l.filter (· ≠ Dfa.start) = l.filter fun s => !s == Dfa.start :=
    List.filter_congr fun s _ => by
      rw [Bool.eq_iff_iff]
      simp
  have hfirst := h.renumbered.fixed
  rw [List.eraseDups_cons, hrange, List.cons.injEq, ← hrange] at hfirst
  rw [hrows, List.flatMap_map, hfilter]
  exact hfirst.2

/-- An automaton all of whose states are kept under their numbers stays as it is. -/
theorem eq_of_range (h : Trims d d' (List.range d.size)) (hrows : d.rows.size = d.size)
    (hlt : ∀ s, ∀ t ∈ d.successors s, t < d.size) : d' = d := by
  have hid {k : ℕ} (hk : k < d.size) : (List.range d.size)[k]? = some k := by simp [hk]
  have hsize : d'.size = d.size := by rw [h.size_eq, List.length_range]
  refine eq_of_row_eq h.classes hsize h.size_rows hrows (fun k hk => ?_) fun k hk => ?_
  · exact h.isAccepting_eq (hid (hsize ▸ hk))
  · have hkeep : ∀ t ∈ d.row k, t.bind (List.range d.size).idxOf? = t := by
      intro t ht
      cases t with
      | none => rfl
      | some t =>
        have ht := hlt k t (mem_successors.mpr ht)
        exact (idxOf?_eq_some_iff_of_nodup List.nodup_range).mpr (hid ht)
    rw [h.row (hid (hsize ▸ hk)), Array.map_congr_left hkeep, Array.map_id']

/-- Trimming once more keeps every state under its number. -/
theorem trim?_eq (h : Trims d d' order) : d'.trim? = some d' := by
  obtain ⟨d'', htrim⟩ := exists_trim? (h.live h.wellFormed.start_lt)
  obtain ⟨order', h'⟩ := trim?_trims htrim
  have hmem (s : StateId) : s ∈ order' ↔ s < d'.size := by
    rw [h'.mem_iff]
    exact ⟨fun hs => hs.1.1, fun hs => ⟨h.live hs, h.reached hs⟩⟩
  have hsame : BreadthFirst d'.successors Dfa.start order' :=
    h'.numbered.congr fun s _ =>
      List.filter_eq_self.mpr fun t ht => by simpa [hmem] using h.successors_lt ht
  obtain rfl := hsame.unique h.renumbered
  rw [htrim, h'.eq_of_range h.size_rows fun _ _ => h.successors_lt]

end Trims

theorem isSome_walk?_iff (h : d.WellFormed)
    (hlive : ∀ s < d.size, ∃ w t, d.walk? s w = some t ∧ d.isAccepting t) (w : List UInt8) :
    (d.walk? start w).isSome ↔ ∃ u, d.accepts (w ++ u) := by
  simp only [accepts_iff, walk?_append, Option.isSome_iff_exists, Option.bind_eq_some_iff]
  constructor
  · rintro ⟨s, hs⟩
    obtain ⟨u, t, hu, hacc⟩ := hlive s (h.walk_lt h.start_lt hs)
    exact ⟨u, t, ⟨s, hs, hu⟩, hacc⟩
  · rintro ⟨u, t, ⟨s, hs, -⟩, -⟩
    exact ⟨s, hs⟩

/-- An automaton without dead ends whose states are numbered as a search of its table finds them. -/
structure Canonical (d : Dfa) : Prop where
  /-- Some byte string leads from the start to every state. -/
  reachable : ∀ s < d.size, ∃ w, d.walk? start w = some s
  /-- Some byte string leads from every state to an accepting one. -/
  live : ∀ s < d.size, ∃ w t, d.walk? s w = some t ∧ d.isAccepting t
  /-- The start can read what can be completed to an accepted string, and nothing else. -/
  isSome_walk?_iff : ∀ w, (d.walk? start w).isSome ↔ ∃ u, d.accepts (w ++ u)
  /-- Row by row, the states that the table leads to first occur in the order of their numbers. -/
  numbered : ((d.rows.toList.flatMap fun row => row.toList.filterMap id).filter (· ≠ start)).eraseDups =
    List.range' 1 (d.size - 1)
  trim?_eq : d.trim? = some d

theorem canonical_ofNfa {nfa : Nfa} (h : Dfa.ofNfa limits nfa = .ok d) : d.Canonical := by
  obtain ⟨d₁, hd₁, htrim⟩ := ofNfa_eq_ok h
  obtain ⟨order, ht⟩ := trim?_trims htrim
  have hcovered := ht.covered (covered_of_determinize hd₁)
  have hreachable (s : ℕ) (hs : s < d.size) : ∃ w, d.walk? start w = some s := by
    obtain ⟨_, hseed, -, hpath⟩ := ht.reached hs
    rw [List.mem_singleton.mp hseed] at hpath
    exact hcovered.exists_walk? hpath
  have hlive (s : ℕ) (hs : s < d.size) : ∃ w t, d.walk? s w = some t ∧ d.isAccepting t := by
    obtain ⟨-, t, hacc, hpath⟩ := ht.live hs
    obtain ⟨w, hw⟩ := hcovered.exists_walk? hpath
    exact ⟨w, t, hw, hacc⟩
  exact ⟨hreachable, hlive, isSome_walk?_iff ht.wellFormed hlive, ht.targets_eq, ht.trim?_eq⟩

theorem ofNfa_failsWith {nfa : Nfa} : FailsWith
    (fun e => Discovery.Outgrows limits e ∨ ∀ w, ¬ nfa.Accepts w nfa.start 0) (Dfa.ofNfa limits nfa) := by
  refine .bind determinize_failsWith fun d hd => ?_
  obtain ⟨sets, hsim⟩ := determinize_simulates hd
  split
  · exact .ok
  · rename_i hnone
    refine .error (.inr fun w hw => ?_)
    obtain ⟨t, hwalk, ht⟩ := accepts_iff.mp ((hsim.accepts_iff w).mpr hw)
    obtain ⟨d', hd'⟩ := exists_trim? (live_of_walk? hsim.size_rows hwalk ht)
    simp [hnone] at hd'

end Dfa

theorem parsePattern_refuses {text : String} : FailsWith Plan.Refuses (parsePattern limits text) := by
  unfold parsePattern
  split
  · exact .error (.inr rfl)
  · cases Pattern.Expr.ofString text with
    | ok e => exact .ok
    | error cause => exact .error (.inl rfl)

theorem compile_eq_bind (limits : CompileLimits) (text : String) : compile limits text =
    parsePattern limits text >>= fun e => Nfa.ofExpr limits e >>= Dfa.ofNfa limits := by
  simp only [compile, Nfa.ofPattern, bind_assoc]

/-- What is neither refused nor compiled matches nothing. -/
theorem failsWith_of_expr {expr : Pattern.Expr} :
    FailsWith (fun e => Plan.Refuses e ∨ ∀ w, ¬ expr.Matches w 0 w.length)
      (Nfa.ofExpr limits expr >>= Dfa.ofNfa limits) := by
  refine .bind (fun e he => .inl (Nfa.ofExpr_refuses e he)) fun nfa hnfa e he => ?_
  rcases Dfa.ofNfa_failsWith e he with rfl | hnone
  · exact .inl (.inr rfl)
  · exact .inr fun w hw => hnone w ((Nfa.accepts_ofExpr hnfa).mpr hw)

/-- A pattern has a canonical automaton that accepts something, unless compilation fails; and it is
called unsatisfiable only if it matches nothing. -/
theorem compile_canonical (limits : CompileLimits) (text : String) :
    (∀ d, compile limits text = .ok d → d.Canonical ∧ ∃ w, d.accepts w) ∧
      ∀ e, compile limits text = .error e → e.kind = .unsatisfiablePattern →
        ∃ expr, parsePattern limits text = .ok expr ∧ ∀ w, ¬ expr.Matches w 0 w.length := by
  constructor
  · intro d h
    obtain ⟨nfa, -, hd⟩ := bind_eq_ok_iff.mp h
    have hcanonical := Dfa.canonical_ofNfa hd
    exact ⟨hcanonical, (hcanonical.isSome_walk?_iff []).mp rfl⟩
  · intro e h hkind
    have hrefused : ¬ Plan.Refuses e := by
      rintro (h | h) <;> simp [hkind] at h
    rw [compile_eq_bind] at h
    cases hexpr : parsePattern limits text with
    | error e' =>
      rw [hexpr] at h
      obtain rfl : e' = e := Except.error.inj h
      exact absurd (parsePattern_refuses e' hexpr) hrefused
    | ok expr =>
      rw [hexpr] at h
      exact ⟨expr, rfl, (failsWith_of_expr e h).resolve_left hrefused⟩

/-- The automaton of the pattern `bd$c`. -/
def deadEndNfa : Nfa :=
  { states := #[.range 98 98 1, .range 100 100 2, .anchor .stop 3, .range 99 99 4, .accept], start := 0 }

/-- The automaton of the pattern `a|bd$c`. -/
def deadBranchNfa : Nfa :=
  { states := #[.union [2, 3], .epsilon 7, .range 97 97 1, .range 98 98 4, .range 100 100 5,
      .anchor .stop 6, .range 99 99 1, .accept]
    start := 0 }

private theorem compile_deadEnd : compile {} "bd$c" = .error .matchesNothing := by
  have hnfa : Nfa.ofPattern {} "bd$c" = .ok deadEndNfa := by cbv
  have hreps : (ByteClasses.ofNfa deadEndNfa).representatives = #[0, 98, 99, 100, 101] := by
    rw [ByteClasses.representatives_ofNfa]
    decide +kernel
  rw [compile, hnfa]
  change Dfa.ofNfa {} deadEndNfa = _
  simp only [Dfa.ofNfa, determinize, hreps]
  generalize ByteClasses.ofNfa deadEndNfa = classes
  cbv

private theorem compile_deadBranch : ∃ d, compile {} "a|bd$c" = .ok d := by
  have hnfa : Nfa.ofPattern {} "a|bd$c" = .ok deadBranchNfa := by cbv
  have hreps : (ByteClasses.ofNfa deadBranchNfa).representatives = #[0, 97, 98, 99, 100, 101] := by
    rw [ByteClasses.representatives_ofNfa]
    decide +kernel
  have hok : (Dfa.ofNfa {} deadBranchNfa).isOk := by
    simp only [Dfa.ofNfa, determinize, hreps]
    generalize ByteClasses.ofNfa deadBranchNfa = classes
    cbv
  rw [compile, hnfa]
  exact exists_of_isOk hok

/-- Nothing follows the end of the text: `a|bd$c` has an automaton without its second branch, and `bd$c`
has none. -/
theorem compile_canonical_deadBranch :
    (∃ d, compile {} "a|bd$c" = .ok d ∧ d.Canonical) ∧
      ∃ expr, parsePattern {} "bd$c" = .ok expr ∧ ∀ w, ¬ expr.Matches w 0 w.length := by
  obtain ⟨d, hd⟩ := compile_deadBranch
  exact ⟨⟨d, hd, ((compile_canonical {} "a|bd$c").1 d hd).1⟩,
    (compile_canonical {} "bd$c").2 _ compile_deadEnd rfl⟩

end ConstrainedDecoding.Automaton
