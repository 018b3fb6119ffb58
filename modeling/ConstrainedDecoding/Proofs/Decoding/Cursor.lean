import ConstrainedDecoding.Proofs.Decoding.Processor
import ConstrainedDecoding.Proofs.Guide.Consistency

/-! A cursor stands where its tokens lead, whatever was done with it. That it knows when it has come to the
end rests on the guide: the end of the sequence, and nothing else, leads to the terminal state. -/
namespace ConstrainedDecoding.Cursor

variable {v : Vocabulary} {options : IndexOptions} {g : Guide}

/-- A cursor with the tokens that it was advanced by since it was at the start. -/
structure Trail where
  cursor : Cursor
  tokens : List TokenId

namespace Trail

def start (g : Guide) : Trail := { cursor := .start g, tokens := [] }

/-- A token that is refused leaves everything as it is. -/
def advance (g : Guide) (x : Trail) (t : TokenId) : Trail :=
  match x.cursor.advance g t with
  | .ok c => { cursor := c, tokens := x.tokens ++ [t] }
  | .error _ => x

/-- The tokens lead to the state of the cursor, and the cursor is finished once they end the sequence. -/
structure Sound (g : Guide) (x : Trail) : Prop where
  walk : g.advanceAll g.initial x.tokens = .ok x.cursor.state
  finished : x.cursor.finished ↔ g.eos ∈ x.tokens

structure Coherent (g : Guide) (x : Trail) : Prop where
  walk : g.advanceAll g.initial x.tokens = .ok x.cursor.state
  reachable : x.cursor.state ∈ g.tables.reachableStates
  finished : x.cursor.finished ↔ x.cursor.state = g.terminal
  terminates : x.cursor.canTerminate g ↔ g.eos ∈ x.cursor.allowedTokens g
  /-- After the end, the end may be repeated, and this changes nothing. -/
  closed : x.cursor.finished → ∀ t c, x.cursor.advance g t = .ok c ↔ t = g.eos ∧ c = x.cursor

variable {x : Trail} {t : TokenId}

theorem advance_of_ok {c : Cursor} (h : x.cursor.advance g t = .ok c) :
    x.advance g t = { cursor := c, tokens := x.tokens ++ [t] } := by
  simp only [advance, h]

theorem advance_of_error {e : Error} (h : x.cursor.advance g t = .error e) : x.advance g t = x := by
  simp only [advance, h]

theorem sound_start (g : Guide) : Sound g (.start g) where
  walk := Guide.advanceAll_nil.mpr rfl
  finished := by simp [start, Cursor.start]

namespace Sound

theorem advance (h : Sound g x) (t : TokenId) : Sound g (x.advance g t) := by
  cases hc : x.cursor.advance g t with
  | error e =>
    rw [advance_of_error hc]
    exact h
  | ok c =>
    obtain ⟨s, hs, rfl⟩ := advance_eq_ok_iff.mp hc
    rw [advance_of_ok hc]
    refine ⟨Guide.advanceAll_concat.mpr ⟨_, h.walk, hs⟩, ?_⟩
    simp [h.finished, eq_comm (a := t)]

theorem finished_iff (h : Sound g x) (hg : g.IsFor v options) :
    x.cursor.finished ↔ x.cursor.state = g.terminal := by
  rw [h.finished, hg.eos_eq, hg.terminal_eq]
  constructor
  · exact fun heos => hg.eq_terminal_of_advanceAll heos h.walk
  · intro hstate
    by_contra heos
    -- without the end of the sequence the state is one of the automaton
    have hlive := (hg.spells_of_advanceAll hg.live_initial heos h.walk).2
    exact (hlive.lt hg.wellFormed).ne hstate

theorem advance_of_finished (h : Sound g x) (hg : g.IsFor v options) (hfinished : x.cursor.finished)
    (t : TokenId) (c : Cursor) : x.cursor.advance g t = .ok c ↔ t = g.eos ∧ c = x.cursor := by
  have hstate : x.cursor.state = g.dfa.size := hg.terminal_eq ▸ (h.finished_iff hg).mp hfinished
  rw [advance_eq_ok_iff, hstate]
  simp only [hg.advance_terminal, hg.eos_eq]
  constructor
  · rintro ⟨s, ⟨rfl, rfl⟩, rfl⟩
    rw [hfinished, Bool.true_or, ← hstate]
    exact ⟨rfl, by rw [← hfinished]⟩
  · rintro ⟨rfl, rfl⟩
    exact ⟨g.dfa.size, ⟨rfl, rfl⟩, by rw [hfinished, Bool.true_or, ← hstate, ← hfinished]⟩

theorem coherent (h : Sound g x) (hg : g.IsFor v options) : Coherent g x where
  walk := h.walk
  reachable := hg.mem_reachableStates.mpr ⟨x.tokens, h.walk⟩
  finished := h.finished_iff hg
  terminates := by
    rw [canTerminate, allowedTokens, hg.mem_allowedTokens]
    simp only [hg.advance_eos_iff, exists_and_left, exists_eq, and_true]
  closed := h.advance_of_finished hg

end Sound

end Trail

/-- What may be done with a cursor. Its clones are numbered in the order in which they were made. -/
inductive Action
  | advance (t : TokenId)
  | reset
  | clone
  | restore (i : ℕ)

structure Session where
  current : Trail
  clones : List Trail

namespace Session

def start (g : Guide) : Session := { current := .start g, clones := [] }

def perform (g : Guide) (s : Session) : Action → Session
  | .advance t => { s with current := s.current.advance g t }
  | .reset => { s with current := .start g }
  | .clone => { s with clones := s.clones ++ [s.current] }
  | .restore i => { s with current := s.clones.getD i s.current }

def run (g : Guide) (actions : List Action) : Session := actions.foldl (perform g) (start g)

theorem run_append (g : Guide) (actions later : List Action) :
    run g (actions ++ later) = later.foldl (perform g) (run g actions) :=
  List.foldl_append

structure Sound (g : Guide) (s : Session) : Prop where
  current : s.current.Sound g
  clones : ∀ x ∈ s.clones, x.Sound g

theorem Sound.perform {s : Session} (h : s.Sound g) (action : Action) : (s.perform g action).Sound g := by
  cases action with
  | advance t => exact ⟨h.current.advance t, h.clones⟩
  | reset => exact ⟨Trail.sound_start g, h.clones⟩
  | clone =>
    refine ⟨h.current, fun x hx => ?_⟩
    rcases List.mem_append.mp hx with hx | hx
    · exact h.clones x hx
    · exact List.mem_singleton.mp hx ▸ h.current
  | restore i =>
    refine ⟨?_, h.clones⟩
    change (s.clones.getD i s.current).Sound g
    rw [List.getD_eq_getElem?_getD]
    cases hi : s.clones[i]? with
    | none => exact h.current
    | some x => exact h.clones x (List.mem_of_getElem? hi)

theorem sound_run (g : Guide) (actions : List Action) : (run g actions).Sound g := by
  induction actions using List.reverseRecOn with
  | nil => exact ⟨Trail.sound_start g, by simp [run, start]⟩
  | append_singleton actions action ih =>
    rw [run_append]
    exact ih.perform action

/-- Once a cursor is finished, it stays as it is until it is reset or restored. -/
theorem Sound.cursor_foldl {s : Session} (h : s.Sound g) (hg : g.IsFor v options)
    (hfinished : s.current.cursor.finished) {later : List Action} (hreset : .reset ∉ later)
    (hrestore : ∀ i, .restore i ∉ later) :
    (later.foldl (Session.perform g) s).current.cursor = s.current.cursor := by
  induction later generalizing s with
  | nil => rfl
  | cons action later ih =>
    have hstep : (s.perform g action).current.cursor = s.current.cursor := by
      cases action with
      | advance t =>
        cases hc : s.current.cursor.advance g t with
        | error e => rw [Session.perform, Trail.advance_of_error hc]
        | ok c =>
          rw [Session.perform, Trail.advance_of_ok hc]
          exact ((h.current.advance_of_finished hg hfinished t c).mp hc).2
      | reset => exact absurd List.mem_cons_self hreset
      | clone => rfl
      | restore i => exact absurd List.mem_cons_self (hrestore i)
    rw [List.foldl_cons, ← hstep]
    exact ih (h.perform action) (hstep ▸ hfinished) (fun hmem => hreset (List.mem_cons_of_mem _ hmem))
      fun i hmem => hrestore i (List.mem_cons_of_mem _ hmem)

/-- Whatever is done with a cursor, its state, its tokens and what it says of its end fit together. A refused
token changes nothing, and after the end nothing changes until the cursor is reset or restored. -/
theorem run_coherent (hg : g.IsFor v options) (actions : List Action) :
    (run g actions).current.Coherent g ∧
    (∀ t e, (run g actions).current.cursor.advance g t = .error e →
      run g (actions ++ [.advance t]) = run g actions) ∧
    ((run g actions).current.cursor.finished → ∀ later, .reset ∉ later → (∀ i, .restore i ∉ later) →
      (run g (actions ++ later)).current.cursor = (run g actions).current.cursor) := by
  have hsound := sound_run g actions
  refine ⟨hsound.current.coherent hg, fun t e he => ?_, fun hfinished later hreset hrestore => ?_⟩
  · rw [run_append, List.foldl_cons, List.foldl_nil, perform, Trail.advance_of_error he]
  · rw [run_append]
    exact hsound.cursor_foldl hg hfinished hreset hrestore

/-- A cursor of `ab` goes back to a clone after the end of the sequence, where a token is refused. -/
theorem run_coherent_ab : ∃ g, Guide.ofPattern {} "ab" (.ofVocabulary Guide.abVocabulary) = .ok g ∧
    (run g [.advance 0, .clone, .advance 1, .advance 5, .restore 0, .advance 4]).current.Coherent g := by
  obtain ⟨g, hg⟩ := Guide.ofPattern_ab
  exact ⟨g, hg, (run_coherent (Guide.ofPattern_eq_ok hg).2 _).1⟩

end Session

end ConstrainedDecoding.Cursor
