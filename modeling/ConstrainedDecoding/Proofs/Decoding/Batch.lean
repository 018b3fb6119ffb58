import ConstrainedDecoding.Proofs.Decoding.Processor
import ConstrainedDecoding.Proofs.Guide.Language

/-! A batch that is refused leaves everything as it was, and one that is not gives each row what a call
for its sequence alone gives. -/
namespace ConstrainedDecoding.Processor

variable {α : Type} {masked : α} {p q : Processor} {id width : ℕ} {token : Option TokenId}
  {logits logits' : List α} {batch batch' : Batch} {v : Vocabulary} {options : IndexOptions}

def rowAt (width : ℕ) (logits : List α) (i : ℕ) : List α := (logits.drop (i * width)).take width

theorem rowAt_zero (width : ℕ) (logits : List α) : rowAt width logits 0 = logits.take width := by
  rw [rowAt, Nat.zero_mul, List.drop_zero]

theorem rowAt_succ (width : ℕ) (logits : List α) (i : ℕ) :
    rowAt width logits (i + 1) = rowAt width (logits.drop width) i := by
  rw [rowAt, rowAt, List.drop_drop, Nat.succ_mul, Nat.add_comm]

def Passes (p : Processor) (id : ℕ) (token : Option TokenId) : Prop :=
  ∃ c, (p.cursor id).advance? p.guide token = .ok c

theorem Alike.passes_iff (h : Alike id p q) : p.Passes id token ↔ q.Passes id token := by
  rw [Passes, Passes, h.cursor, h.guide]

/-- The outcome of a batch is that of each row processed alone, all from the processor before it. -/
structure RowWise (masked : α) (p : Processor) (width : ℕ) (batch : Batch) (logits : List α)
    (o : Outcome α) : Prop where
  result : o.result = .ok ()
  guide : o.after.guide = p.guide
  length : o.logits.length = logits.length
  row : ∀ {i id token}, batch[i]? = some (id, token) →
    (p.process masked id token (rowAt width logits i)).result = .ok () ∧
    rowAt width o.logits i = (p.process masked id token (rowAt width logits i)).logits ∧
    o.after.sequence? id = (p.process masked id token (rowAt width logits i)).after.sequence? id
  others : ∀ {id}, id ∉ batch.map (·.1) → o.after.sequence? id = p.sequence? id

theorem checkBatch_eq_ok_iff {seen : List ℕ} : p.checkBatch seen batch = .ok () ↔
    (∀ r ∈ batch, r.1 ∉ seen) ∧ (batch.map (·.1)).Nodup ∧ ∀ r ∈ batch, p.Passes r.1 r.2 := by
  induction batch generalizing seen with
  | nil => simp [checkBatch]
  | cons r batch ih =>
    obtain ⟨id, token⟩ := r
    have hfirst : p.checkBatch seen ((id, token) :: batch) = .ok () ↔
        id ∉ seen ∧ p.Passes id token ∧ p.checkBatch (id :: seen) batch = .ok () := by
      by_cases hseen : id ∈ seen
      · simp [checkBatch, hseen]
      · simp [checkBatch, hseen, Passes]
    have hrest : (∀ r ∈ batch, r.1 ∉ id :: seen) ↔
        (∀ r ∈ batch, r.1 ∉ seen) ∧ id ∉ batch.map (·.1) := by
      simp only [List.mem_cons, not_or, List.mem_map, not_exists, not_and]
      exact ⟨fun h => ⟨fun r hr => (h r hr).2, fun r hr => (h r hr).1⟩,
        fun h r hr => ⟨h.2 r hr, h.1 r hr⟩⟩
    rw [hfirst, ih, hrest, List.forall_mem_cons, List.forall_mem_cons, List.map_cons,
      List.nodup_cons]
    tauto

/-- The rows of a batch without repeated sequences do not meet, so none of them fails. -/
theorem processRows_rowWise (hlength : logits.length = batch.length * width)
    (hids : (batch.map (·.1)).Nodup) (hpasses : ∀ r ∈ batch, p.Passes r.1 r.2) :
    RowWise masked p width batch logits (p.processRows masked width batch logits) := by
  induction batch generalizing p logits with
  | nil => exact ⟨rfl, rfl, rfl, by simp, fun _ => rfl⟩
  | cons r batch ih =>
    obtain ⟨id, token⟩ := r
    obtain ⟨hid, hids⟩ := List.nodup_cons.mp hids
    obtain ⟨⟨c, hc⟩, hpasses⟩ := List.forall_mem_cons.mp hpasses
    set row := p.process masked id token (logits.take width) with hrow
    have hresult : row.result = .ok () := by rw [hrow, process_of_ok hc]
    rw [List.length_cons, Nat.succ_mul] at hlength
    have hwidth : row.logits.length = width := by
      rw [length_process, List.length_take]
      omega
    -- the first row leaves the later ones as they were
    have halike {i : ℕ} {r : ℕ × Option TokenId} (hr : batch[i]? = some r) : Alike r.1 row.after p := by
      refine process_alike ?_
      rintro rfl
      exact hid (List.mem_map.mpr ⟨r, List.mem_of_getElem? hr, rfl⟩)
    have hrest : RowWise masked row.after width batch (logits.drop width)
        (row.after.processRows masked width batch (logits.drop width)) := by
      refine ih ?_ hids fun r hr => ?_
      · rw [List.length_drop]
        omega
      · obtain ⟨i, hi⟩ := List.mem_iff_getElem?.mp hr
        exact (halike hi).passes_iff.mpr (hpasses r hr)
    have houtcome : p.processRows masked width ((id, token) :: batch) logits =
        { row.after.processRows masked width batch (logits.drop width) with
          logits := row.logits ++ (row.after.processRows masked width batch (logits.drop width)).logits } := by
      rw [processRows, ← hrow]
      simp only [hresult]
    rw [houtcome]
    set others := row.after.processRows masked width batch (logits.drop width)
    refine ⟨hrest.result, hrest.guide.trans guide_process, ?_, fun {i id' token'} hr => ?_, fun {s} hs => ?_⟩
    · rw [List.length_append, hwidth, hrest.length, List.length_drop]
      omega
    · cases i with
      | zero =>
        obtain ⟨rfl, rfl⟩ : id = id' ∧ token = token' := by simpa using hr
        rw [rowAt_zero, rowAt_zero, ← hrow, ← hwidth, List.take_left]
        exact ⟨hresult, rfl, hrest.others hid⟩
      | succ i =>
        have hsame := (halike hr).process masked token' (rowAt width (logits.drop width) i)
        obtain ⟨hok, hlogits, hsequence⟩ := hrest.row hr
        have hdrop : (row.logits ++ others.logits).drop width = others.logits := by
          rw [← hwidth, List.drop_left]
        rw [rowAt_succ, rowAt_succ, hdrop]
        exact ⟨hsame.1 ▸ hok, hsame.2.1 ▸ hlogits, hsequence.trans hsame.2.2.sequence⟩
    · obtain ⟨hne, hs⟩ : s ≠ id ∧ s ∉ batch.map (·.1) := by
        rw [List.map_cons, List.mem_cons, not_or] at hs
        exact hs
      rw [hrest.others hs]
      exact (process_alike (Ne.symm hne)).sequence

/-- What is asked of a batch before any sequence moves. -/
@[mk_iff]
structure Admits (p : Processor) (batch : Batch) (logits : List α) : Prop where
  nonempty : logits ≠ []
  even : batch.length ∣ logits.length
  distinct : (batch.map (·.1)).Nodup
  passes : ∀ r ∈ batch, p.Passes r.1 r.2

theorem Admits.width_pos (h : p.Admits batch logits) : 0 < logits.length / batch.length :=
  Nat.div_pos (Nat.le_of_dvd (List.length_pos_of_ne_nil h.nonempty) h.even)
    (Nat.pos_of_dvd_of_pos h.even (List.length_pos_of_ne_nil h.nonempty))

theorem Admits.processRows (h : p.Admits batch logits) (masked : α) :
    RowWise masked p (logits.length / batch.length) batch logits
      (p.processRows masked (logits.length / batch.length) batch logits) :=
  processRows_rowWise (Nat.mul_div_cancel' h.even).symm h.distinct h.passes

theorem Admits.perm (h : p.Admits batch logits) (hbatch : batch.Perm batch')
    (hlength : logits.length = logits'.length) : p.Admits batch' logits' where
  nonempty := List.ne_nil_of_length_pos (hlength ▸ List.length_pos_of_ne_nil h.nonempty)
  even := hbatch.length_eq ▸ hlength ▸ h.even
  distinct := (hbatch.map _).nodup_iff.mp h.distinct
  passes := fun r hr => h.passes r (hbatch.mem_iff.mpr hr)

theorem processBatch_of_admits (h : p.Admits batch logits) : p.processBatch masked batch logits =
    p.processRows masked (logits.length / batch.length) batch logits := by
  cases batch with
  | nil =>
    have hzero : logits.length = 0 := Nat.eq_zero_of_zero_dvd h.even
    exact absurd (List.length_eq_zero_iff.mp hzero) h.nonempty
  | cons r batch =>
    have hcheck : p.checkBatch [] (r :: batch) = .ok () :=
      checkBatch_eq_ok_iff.mpr ⟨by simp, h.distinct, h.passes⟩
    have heven : logits.length % (r :: batch).length = 0 := Nat.mod_eq_zero_of_dvd h.even
    simp only [processBatch, hcheck, heven]
    simp [h.nonempty]

theorem processBatch_of_not_admits (hbatch : batch ≠ []) (h : ¬ p.Admits batch logits) (masked : α) :
    ∃ e, p.processBatch masked batch logits = { result := .error e, logits, after := p } := by
  rw [processBatch, if_neg (by simpa using hbatch)]
  split
  · exact ⟨_, rfl⟩
  · rename_i hshape
    cases hcheck : p.checkBatch [] batch with
    | error e => exact ⟨e, rfl⟩
    | ok =>
      obtain ⟨-, hdistinct, hpasses⟩ := checkBatch_eq_ok_iff.mp hcheck
      simp only [Bool.or_eq_true, List.isEmpty_iff, bne_iff_ne, not_or, not_not] at hshape
      exact absurd ⟨hshape.1, Nat.dvd_of_mod_eq_zero hshape.2, hdistinct, hpasses⟩ h

/-- A batch that goes well is one without rows or one that is admitted. -/
theorem processBatch_eq_ok_iff :
    (p.processBatch masked batch logits).result = .ok () ↔ batch = [] ∨ p.Admits batch logits := by
  by_cases hbatch : batch = []
  · subst hbatch
    exact iff_of_true rfl (.inl rfl)
  · rw [or_iff_right hbatch]
    constructor
    · intro hok
      by_contra hnot
      obtain ⟨e, he⟩ := processBatch_of_not_admits hbatch hnot masked
      rw [he] at hok
      cases hok
    · intro h
      rw [processBatch_of_admits h]
      exact (h.processRows masked).result

theorem processBatch_rowWise (h : p.Admits batch logits) (masked : α) :
    RowWise masked p (logits.length / batch.length) batch logits
      (p.processBatch masked batch logits) :=
  processBatch_of_admits h ▸ h.processRows masked

/-- A batch that fails leaves the sequences and the logits as they were. -/
theorem processBatch_of_error {e : Error}
    (he : (p.processBatch masked batch logits).result = .error e) :
    p.processBatch masked batch logits = { result := .error e, logits, after := p } := by
  have hnot : ¬ (batch = [] ∨ p.Admits batch logits) := by
    intro hok
    rw [processBatch_eq_ok_iff.mpr hok] at he
    cases he
  obtain ⟨hbatch, hadmits⟩ := not_or.mp hnot
  obtain ⟨e', he'⟩ := processBatch_of_not_admits hbatch hadmits masked
  rw [he'] at he ⊢
  rw [Except.error.inj he]

theorem RowWise.sequence?_eq {o o' : Outcome α} {width' : ℕ} (h : RowWise masked p width batch logits o)
    (h' : RowWise masked p width' batch' logits' o') (hbatch : batch.Perm batch') (id : ℕ) :
    o.after.sequence? id = o'.after.sequence? id := by
  by_cases hid : id ∈ batch.map (·.1)
  · obtain ⟨⟨_, token⟩, hr, rfl⟩ := List.mem_map.mp hid
    obtain ⟨i, hi⟩ := List.mem_iff_getElem?.mp hr
    obtain ⟨j, hj⟩ := List.mem_iff_getElem?.mp (hbatch.mem_iff.mp hr)
    rw [(h.row hi).2.2, (h'.row hj).2.2, after_process_congr]
  · rw [h.others hid, h'.others fun hmem => hid ((hbatch.map _).mem_iff.mpr hmem)]

theorem passes_some_iff (h : p.guide.IsFor v options) {t : TokenId} :
    p.Passes id (some t) ↔ t ∈ p.guide.allowedTokens (p.cursor id).state := by
  rw [h.mem_allowedTokens]
  simp [Passes, Cursor.advance?, Cursor.advance_eq_ok_iff]

theorem passes_none : p.Passes id none := ⟨_, rfl⟩

/-- A batch with rows is refused for the shape of its logits, for a sequence that comes twice or for a
token that is not allowed. -/
theorem not_admits_iff (h : p.guide.IsFor v options) : ¬ p.Admits batch logits ↔
    logits = [] ∨ ¬ batch.length ∣ logits.length ∨ ¬ (batch.map (·.1)).Nodup ∨
      ∃ id t, (id, some t) ∈ batch ∧ t ∉ p.guide.allowedTokens (p.cursor id).state := by
  have hpasses : (∀ r ∈ batch, p.Passes r.1 r.2) ↔
      ¬ ∃ id t, (id, some t) ∈ batch ∧ t ∉ p.guide.allowedTokens (p.cursor id).state := by
    constructor
    · rintro hall ⟨id, t, hr, ht⟩
      exact ht ((passes_some_iff h).mp (hall _ hr))
    · rintro hnot ⟨id, token⟩ hr
      cases token with
      | none => exact passes_none
      | some t =>
        by_contra ht
        exact hnot ⟨id, t, hr, fun hmem => ht ((passes_some_iff h).mpr hmem)⟩
  rw [admits_iff, hpasses, not_and_or, not_and_or, not_and_or, not_not, not_not]

/-- Batches are atomic, and their rows are independent. -/
theorem processBatch_atomic (h : p.guide.IsFor v options) (masked : α) (batch : Batch)
    (logits : List α) :
    -- a batch without rows
    (batch = [] → p.processBatch masked batch logits = { result := .ok (), logits, after := p }) ∧
    -- when a batch fails
    (batch ≠ [] → ((∃ e, (p.processBatch masked batch logits).result = .error e) ↔
      logits = [] ∨ ¬ batch.length ∣ logits.length ∨ ¬ (batch.map (·.1)).Nodup ∨
        ∃ id t, (id, some t) ∈ batch ∧ t ∉ p.guide.allowedTokens (p.cursor id).state)) ∧
    -- what it leaves then
    (∀ e, (p.processBatch masked batch logits).result = .error e →
      p.processBatch masked batch logits = { result := .error e, logits, after := p }) ∧
    -- what it leaves otherwise
    ((p.processBatch masked batch logits).result = .ok () → batch ≠ [] →
      RowWise masked p (logits.length / batch.length) batch logits
        (p.processBatch masked batch logits)) ∧
    -- the order of the rows
    ((p.processBatch masked batch logits).result = .ok () →
      ∀ batch' logits', batch.Perm batch' → logits.length = logits'.length →
        (p.processBatch masked batch' logits').result = .ok () ∧
        ∀ id, (p.processBatch masked batch logits).after.sequence? id =
          (p.processBatch masked batch' logits').after.sequence? id) ∧
    -- the rows after the check
    (logits ≠ [] → batch.length ∣ logits.length → p.checkBatch [] batch = .ok () →
      0 < logits.length / batch.length ∧
        (p.processRows masked (logits.length / batch.length) batch logits).result = .ok ()) := by
  refine ⟨?_, fun hbatch => ?_, fun e he => processBatch_of_error he, fun hok hbatch => ?_,
    fun hok batch' logits' hperm hlen => ?_, fun hne heven hcheck => ?_⟩
  · rintro rfl
    rfl
  · rw [← not_admits_iff h]
    constructor
    · rintro ⟨e, he⟩ ha
      rw [(processBatch_rowWise ha masked).result] at he
      cases he
    · intro hnot
      obtain ⟨e, he⟩ := processBatch_of_not_admits hbatch hnot masked
      exact ⟨e, by rw [he]⟩
  · exact processBatch_rowWise ((processBatch_eq_ok_iff.mp hok).resolve_left hbatch) masked
  · rcases processBatch_eq_ok_iff.mp hok with rfl | ha
    · rw [List.nil_perm.mp hperm]
      exact ⟨rfl, fun id => rfl⟩
    · have hrows := processBatch_rowWise ha masked
      have hrows' := processBatch_rowWise (ha.perm hperm hlen) masked
      exact ⟨hrows'.result, hrows.sequence?_eq hrows' hperm⟩
  · obtain ⟨-, hdistinct, hpasses⟩ := checkBatch_eq_ok_iff.mp hcheck
    have ha : p.Admits batch logits := ⟨hne, heven, hdistinct, hpasses⟩
    exact ⟨ha.width_pos, (ha.processRows masked).result⟩

theorem processBatch_atomic_ab :
    ∃ g, Guide.ofPattern {} "ab" (.ofVocabulary Guide.abVocabulary) = .ok g ∧
      ∃ e, (ofGuide g).processBatch none [(7, none), (8, none), (7, none)] [some 1, some 2, some 3] =
        { result := .error e, logits := [some 1, some 2, some 3], after := ofGuide g } := by
  obtain ⟨g, hg⟩ := Guide.ofPattern_ab
  have hatomic := processBatch_atomic (p := ofGuide g) (Guide.ofPattern_eq_ok hg).2 none
    [(7, none), (8, none), (7, none)] [some 1, some 2, some 3]
  obtain ⟨e, he⟩ := (hatomic.2.1 (by simp)).mpr (.inr (.inr (.inl (by decide))))
  exact ⟨g, hg, e, hatomic.2.2.1 e he⟩

end ConstrainedDecoding.Processor
