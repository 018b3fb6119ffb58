import ConstrainedDecoding.CommandLine.Session
import ConstrainedDecoding.Proofs.Decoding.Projection
import ConstrainedDecoding.Proofs.Guide.Completion
import ConstrainedDecoding.Proofs.Guide.Recency

/-! A loop that chooses from what the mask has left never fails, and what it has chosen when it comes to
the end of the sequence is a match. -/
namespace ConstrainedDecoding
open Processor (Call Alike perform perform_alike process_of_ok)

variable {α : Type} {masked : α} {g : Guide} {v : Vocabulary} {options : IndexOptions} {id : ℕ}
  {p : Processor} {ts : List TokenId}

/-- A sequence that was not known before is generated by its own choices: its first call brings no token,
and every later one the token that was chosen from what the call before it left. Calls that do not
concern the sequence may come in between. -/
inductive Generates (g : Guide) (masked : α) (id : ℕ) : Processor → List TokenId → Prop
  | start {p : Processor} (hguide : p.guide = g) (hnew : p.sequence? id = none) :
      Generates g masked id p []
  | choose {p : Processor} {ts : List TokenId} {row : List α} {next : ℕ} {x : α}
      (h : Generates g masked id p ts) (hrow : masked ∉ row) (hwide : g.vocabularySize ≤ row.length)
      (hnext : (p.process masked id ts.getLast? row).logits[next]? = some x) (hx : x ≠ masked) :
      Generates g masked id (p.process masked id ts.getLast? row).after (ts ++ [next])
  | other {p : Processor} {ts : List TokenId} (h : Generates g masked id p ts) (c : Call α)
      (hc : c.part masked p id = none) : Generates g masked id (p.perform masked c) ts

namespace Generates

theorem follows (hg : g.IsFor v options) (h : Generates g masked id p ts) :
    p.guide = g ∧ ∃ c, (p.cursor id).advance? p.guide ts.getLast? = .ok c ∧
      g.advanceAll g.initial ts = .ok c.state := by
  induction h with
  | @start p hguide hnew =>
    have hcursor : p.cursor id = .start g := by
      rw [Processor.cursor, hnew, Option.getD_none, hguide]
    exact ⟨hguide, .start g, by rw [hcursor]; rfl, Guide.advanceAll_nil.mpr rfl⟩
  | @choose p ts row next x h hrow hwide hnext hx ih =>
    obtain ⟨hguide, c, hc, hts⟩ := ih
    rw [process_of_ok hc] at hnext ⊢
    have hmem : next ∈ g.allowedTokens c.state :=
      ((hg.exists_getElem?_maskLogits_iff hrow).mp ⟨x, hguide ▸ hnext, hx⟩).1
    obtain ⟨s, hs⟩ := hg.mem_allowedTokens.mp hmem
    have hcursor : (p.set id c).cursor id = c := by
      simp [Processor.cursor, Processor.sequence?_set]
    refine ⟨hguide, { state := s, finished := c.finished || next == g.eos }, ?_,
      Guide.advanceAll_concat.mpr ⟨c.state, hts, hs⟩⟩
    rw [hcursor, List.getLast?_concat]
    exact Cursor.advance_eq_ok_iff.mpr ⟨s, hguide.symm ▸ hs, by rw [Processor.guide_set, hguide]⟩
  | @other p ts h c hc ih =>
    have halike : Alike id (p.perform masked c) p := by
      have := perform_alike masked (.refl id p) c
      rwa [hc] at this
    rw [halike.cursor, halike.guide]
    exact ih

theorem process (hg : g.IsFor v options) (h : Generates g masked id p ts) {row : List α}
    (hrow : masked ∉ row) (hwide : g.vocabularySize ≤ row.length) :
    (p.process masked id ts.getLast? row).result = .ok () ∧
      ∃ (next : ℕ) (x : α),
        (p.process masked id ts.getLast? row).logits[next]? = some x ∧ x ≠ masked := by
  obtain ⟨hguide, c, hc, hts⟩ := h.follows hg
  rw [process_of_ok hc, hguide]
  obtain ⟨t, ht⟩ := List.exists_mem_of_ne_nil _ (hg.allowedTokens_ne_nil_iff.mpr ⟨ts, hts⟩)
  have hlt : t < row.length := (hg.vocabularySize_eq ▸ hg.lt_of_mem_allowedTokens ht).trans_le hwide
  exact ⟨rfl, t, (hg.exists_getElem?_maskLogits_iff hrow).mpr ⟨ht, hlt⟩⟩

/-- What has been chosen when the end of the sequence is chosen for the first time is a match. -/
theorem accepts (hg : g.IsFor v options) (rest : List TokenId)
    (h : Generates g masked id p (ts ++ [v.eos] ++ rest)) (heos : v.eos ∉ ts) :
    (∀ t ∈ ts, options.Uses v t) ∧ g.dfa.accepts (v.decode ts) := by
  obtain ⟨-, c, -, hts⟩ := h.follows hg
  obtain ⟨s, hs, -⟩ := Guide.advanceAll_append.mp hts
  exact (hg.exists_ends_iff heos).mp ⟨s, hs⟩

theorem completes (hg : g.IsFor v options) (h : Generates g masked id p ts) (heos : v.eos ∉ ts) :
    ∃ us, (∀ t ∈ ts ++ us, options.Uses v t) ∧ g.dfa.accepts (v.decode (ts ++ us)) := by
  obtain ⟨-, c, -, hts⟩ := h.follows hg
  obtain ⟨hspells, hlive⟩ := hg.spells_of_advanceAll hg.live_initial heos hts
  obtain ⟨us, s, hus, ha⟩ := hlive.completes
  have hall := hspells.append hus
  exact ⟨us, hall.1, Automaton.Dfa.accepts_iff.mpr ⟨s, hall.2, ha⟩⟩

end Generates

namespace Walk

variable {β : Type} [LT β] [DecidableLT β]

/-- The best score is one of the scores, and there is one unless there are no scores. -/
theorem foldl_better (scores : List (Option β)) :
    match scores.zipIdx.foldl better none with
    | none => ∀ x ∈ scores, x = none
    | some (score, i) => scores[i]? = some (some score) := by
  -- from the end, so that the positions of the other scores stay
  induction scores using List.reverseRecOn with
  | nil => simp
  | append_singleton scores x ih =>
    have hkeep {i : ℕ} {score : β} (h : scores[i]? = some (some score)) :
        (scores ++ [x])[i]? = some (some score) := by
      rw [List.getElem?_append_left (List.getElem?_eq_some_iff.mp h).1, h]
    rw [List.zipIdx_append, List.foldl_append]
    generalize scores.zipIdx.foldl better none = best at ih
    cases x with
    | none =>
      cases best with
      | none => simpa [better, or_imp, forall_and] using ih
      | some b => exact hkeep ih
    | some score =>
      have hlast : (scores ++ [some score])[scores.length]? = some (some score) := by simp
      cases best with
      | none => simp [better]
      | some b =>
        by_cases hlt : score < b.1
        · simpa [better, hlt] using hkeep ih
        · simp [better, hlt]

theorem exists_best? {scores : List (Option β)}
    (h : ∃ (i : ℕ) (x : Option β), scores[i]? = some x ∧ x ≠ none) :
    ∃ token x, best? scores = some token ∧ scores[token]? = some x ∧ x ≠ none := by
  have hbest := foldl_better scores
  rw [best?]
  cases hfold : scores.zipIdx.foldl better none with
  | none =>
    rw [hfold] at hbest
    obtain ⟨i, x, hx, hne⟩ := h
    exact absurd (hbest x (List.mem_of_getElem? hx)) hne
  | some b =>
    rw [hfold] at hbest
    exact ⟨b.2, some b.1, rfl, hbest, Option.some_ne_none _⟩

/-- A walk that came to the end of the sequence has found a match. Otherwise it has made all its steps,
and its tokens are the first ones of a match. -/
structure Guided (g : Guide) (v : Vocabulary) (options : IndexOptions) (count : ℕ) (w : Walk) : Prop where
  complete : w.complete → (∀ t ∈ w.tokens, options.Uses v t) ∧ g.dfa.accepts (v.decode w.tokens)
  truncated : ¬ w.complete → w.tokens.length = count ∧
    ∃ us, (∀ t ∈ w.tokens ++ us, options.Uses v t) ∧ g.dfa.accepts (v.decode (w.tokens ++ us))

/-- From any point of the generation, a walk goes on with it to its end. -/
theorem exists_ofScores (hg : g.IsFor v options) {scores : ℕ → List (Option β)}
    (hscores : ∀ i, none ∉ scores i ∧ g.vocabularySize ≤ (scores i).length) (count step : ℕ)
    (h : Generates g (none : Option β) 0 p ts) (heos : v.eos ∉ ts) :
    ∃ w q, ofScores scores count step ts.getLast? p = .ok w ∧ v.eos ∉ ts ++ w.tokens ∧
      (w.complete → Generates g (none : Option β) 0 q (ts ++ w.tokens ++ [v.eos])) ∧
      (¬ w.complete → w.tokens.length = count ∧ Generates g (none : Option β) 0 q (ts ++ w.tokens)) := by
  induction count generalizing step p ts with
  | zero => exact ⟨⟨[], false⟩, p, rfl, by simpa using heos, by simp, fun _ => ⟨rfl, by simpa using h⟩⟩
  | succ count ih =>
    obtain ⟨hrow, hwide⟩ := hscores step
    obtain ⟨hok, hopen⟩ := h.process hg hrow hwide
    obtain ⟨token, x, hbest, hx, hne⟩ := exists_best? hopen
    have hchoose := h.choose hrow hwide hx hne
    have hguide : p.guide.eos = v.eos := by rw [(h.follows hg).1, hg.eos_eq]
    by_cases htoken : token = v.eos
    · subst htoken
      refine ⟨⟨[], true⟩, _, ?_, by simpa using heos, fun _ => by simpa using hchoose, by simp⟩
      simp [ofScores, hok, hbest, hguide]
    · -- the walk grows at its front, the generation at its end
      have heos' : v.eos ∉ ts ++ [token] := by simp [heos, Ne.symm htoken]
      obtain ⟨w, q, hw, hmem, hcomplete, htruncated⟩ := ih (step + 1) hchoose heos'
      have happ : ts ++ token :: w.tokens = ts ++ [token] ++ w.tokens := by simp
      rw [List.getLast?_concat] at hw
      refine ⟨⟨token :: w.tokens, w.complete⟩, q, ?_, happ ▸ hmem, happ ▸ hcomplete, fun hnot => ?_⟩
      · simp [ofScores, hok, hbest, hguide, htoken, hw]
      · obtain ⟨hlen, hq⟩ := htruncated hnot
        exact ⟨by rw [List.length_cons, hlen], happ ▸ hq⟩

/-- A walk from the start of a guide does not fail. -/
theorem exists_guided (hg : g.IsFor v options) {scores : ℕ → List (Option β)}
    (hscores : ∀ i, none ∉ scores i ∧ g.vocabularySize ≤ (scores i).length) (count : ℕ) :
    ∃ w, ofScores scores count 0 none (.ofGuide g) = .ok w ∧ Guided g v options count w := by
  have hstart : Generates g (none : Option β) 0 (.ofGuide g) [] :=
    .start rfl Processor.sequence?_ofGuide
  obtain ⟨w, q, hw, heos, hcomplete, htruncated⟩ :=
    exists_ofScores hg hscores count 0 hstart List.not_mem_nil
  rw [List.nil_append] at heos hcomplete htruncated
  refine ⟨w, hw, fun hc => ?_, fun hc => ?_⟩
  · exact Generates.accepts hg [] (by simpa using hcomplete hc) heos
  · exact ⟨(htruncated hc).1, (htruncated hc).2.completes hg heos⟩

end Walk

theorem KeyStream.length_words (seed : UInt64) (start count : ℕ) :
    (words seed start count).length = count := by
  have hblocks (first n : ℕ) (key : Key) :
      ((List.range' first n).flatMap fun number => (block key number.toUInt64).toList).length = n * 16 := by
    simp [List.length_flatMap]
  rw [words, List.length_take, List.length_drop, hblocks]
  omega

/-- Random scores are scores for every token. -/
theorem Guide.exists_walk (hg : g.IsFor v options) (seed : UInt64) (count : ℕ) :
    ∃ w, g.walk seed count = .ok w ∧ w.Guided g v options count := by
  refine Walk.exists_guided hg (fun i => ⟨by simp [Walk.scores], ?_⟩) count
  rw [Walk.scores, List.length_map, KeyStream.length_words]

/-- The samples that the program draws. -/
theorem CommandLine.Session.exists_sample {s : Session} {pattern : String}
    (h : Guide.ofPattern s.settings pattern (.ofVocabulary v) = .ok g)
    (hv : s.vocabulary = .ofVocabulary v) (seed count : ℕ) {backend : Backend} (hb : backend.hasLogits) :
    ∃ w : Walk, w.Guided g v s.settings.index count ∧
      s.sample pattern seed count backend = .ok [Utf8.decodeLossy (v.decode w.tokens)] := by
  obtain ⟨w, hw, hguided⟩ := Guide.exists_walk (Guide.ofPattern_eq_ok h).2 seed.toUInt64 count
  have hbuilt := GuideCache.getOrBuild_empty .standard s.settings.cache h
  generalize hcall : (GuideCache.empty .standard s.settings.cache).getOrBuild s.settings pattern
    (.ofVocabulary v) = call at hbuilt
  obtain ⟨result, cache⟩ := call
  subst hbuilt
  refine ⟨w, hguided, ?_⟩
  simp only [sample, hv, Generator.ofPattern, hb, hcall, if_true, Except.mapError, bind_eq_ok_iff]
  exact ⟨_, rfl, by rw [hw]; rfl⟩

/-- A loop that chooses from what the mask has left is never refused a token and always has one to choose,
and the tokens before the end of the sequence are a match. In particular the walks that follow the best
score do not fail, and neither do the samples that the program draws. -/
theorem closed_loop {settings : Settings} {pattern : String}
    (h : Guide.ofPattern settings pattern (.ofVocabulary v) = .ok g) :
    Automaton.compile settings.compile pattern = .ok g.dfa ∧
      (∀ {α : Type} (masked : α) (id : ℕ) (p : Processor) (ts : List TokenId),
        Generates g masked id p ts →
          (∀ row : List α, masked ∉ row → v.size ≤ row.length →
            (p.process masked id ts.getLast? row).result = .ok () ∧
              ∃ (next : ℕ) (x : α),
                (p.process masked id ts.getLast? row).logits[next]? = some x ∧ x ≠ masked) ∧
          ∀ us rest, ts = us ++ [v.eos] ++ rest → v.eos ∉ us → g.dfa.accepts (v.decode us)) ∧
      (∀ {β : Type} [LT β] [DecidableLT β] (scores : ℕ → List (Option β)) (count : ℕ),
        (∀ i, none ∉ scores i ∧ v.size ≤ (scores i).length) →
          ∃ w, Walk.ofScores scores count 0 none (.ofGuide g) = .ok w ∧
            w.Guided g v settings.index count) ∧
      ∀ (s : CommandLine.Session) (seed count : ℕ) (backend : Backend), s.settings = settings →
        s.vocabulary = .ofVocabulary v → backend.hasLogits →
          ∃ w : Walk, w.Guided g v settings.index count ∧
            s.sample pattern seed count backend = .ok [Utf8.decodeLossy (v.decode w.tokens)] := by
  obtain ⟨hcompile, hg⟩ := Guide.ofPattern_eq_ok h
  have hsize := hg.vocabularySize_eq
  refine ⟨hcompile, fun masked id p ts hgen => ⟨fun row hrow hwide => ?_, ?_⟩, ?_, ?_⟩
  · exact hgen.process hg hrow (hsize ▸ hwide)
  · rintro us rest rfl heos
    exact (hgen.accepts hg rest heos).2
  · exact fun scores count hscores => Walk.exists_guided hg (hsize ▸ hscores) count
  · rintro s seed count backend rfl hv hb
    exact s.exists_sample h hv seed count hb

/-- A walk through the guide of `ab` that prefers later tokens. -/
theorem closed_loop_ab :
    ∃ g w, Guide.ofPattern {} "ab" (.ofVocabulary Guide.abVocabulary) = .ok g ∧
      Walk.ofScores (fun _ => (List.range 6).map some) 3 0 none (.ofGuide g) = .ok w ∧
      w.Guided g Guide.abVocabulary {} 3 := by
  obtain ⟨g, hg⟩ := Guide.ofPattern_ab
  obtain ⟨w, hw, hguided⟩ := (closed_loop hg).2.2.1 (fun _ => (List.range 6).map some) 3
    fun _ => by decide
  exact ⟨g, w, hg, hw, hguided⟩

end ConstrainedDecoding
