import PocketCalculator.Proofs.Engine.Entry

set_option autoImplicit false

namespace PocketCalculator

structure Engine.HoldsEntry (fresh : Engine) (done : List Command) (engine : Engine) : Prop where
  reached : engine = fresh.after done
  alternates : engine.tokens.alternates = true
  empty : engine.tokens = [] → engine.ShowsFault
  tidy : ∀ n, .numeral n ∈ engine.tokens → n.Tidy
  minus_first : ∀ n, .numeral n ∈ engine.tokens.tail → '-' ∉ n.text
  minus_result : ∀ n, engine.tokens.head? = some (.numeral n) → '-' ∈ n.text → fresh.Obtained done n

theorem Engine.keyed_holds_entry (settings : Settings) (done : List Command) :
    HoldsEntry (initial settings) done ((initial settings).after done) := by
  have keyed := after_keyed settings done
  obtain ⟨entry, same, front, _⟩ := keyed.enters
  constructor
  · rfl
  · rw [same]
    exact entry.tokens_alternate
  · exact settled_empty _ keyed.settled
  · intro n member
    rw [same, Entry.mem_tokens] at member
    exact Numeral.displayed_tidy n (Numeral.front_obtained_displayed _ front n member)
  · intro n member
    rw [same] at member
    exact Numeral.entered_minus n (front.later n (entry.mem_tokens_tail n member))
  · intro n first minus
    rw [same] at first
    rcases front.front n (entry.head_tokens n first) with entered | ⟨_, result⟩
    · exact absurd minus (Numeral.entered_minus n entered)
    · exact result

theorem Session.always_holds_entry (settings : Settings) (observer : Option Observer) (commands : List Command)
    (command : Command) :
    let fresh := Engine.initial settings
    let session := (start fresh observer).after commands
    fresh.HoldsEntry ((start fresh observer).course commands) session.engine ∧
      (∀ reaction ∈ session.reactions command, ∃ done, done <+: (start fresh observer).course (commands ++ [command]) ∧
        fresh.HoldsEntry done reaction.engine) ∧
      Undergoes { session with seen := [], events := [] } (session.reactions command) (session.step command).2 := by
  intro fresh session
  refine ⟨?_, fun reaction member => ?_, step_undergoes command session⟩
  · rw [after_course]
    exact Engine.keyed_holds_entry settings _
  · obtain ⟨done, next, before, rfl⟩ := reaction_in_course (start fresh observer) commands command reaction member
    refine ⟨done ++ [next], before, ?_⟩
    have holds := Engine.keyed_holds_entry settings (done ++ [next])
    rwa [Engine.after_snoc] at holds

end PocketCalculator
