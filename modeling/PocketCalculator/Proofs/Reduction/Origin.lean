import PocketCalculator.Proofs.Reduction.Refusal
import PocketCalculator.Proofs.Reduction.Turn

/- Where the tokens come from that a reduction works on. Each is either left of the submitted expression, with
   its place there, or the result of an earlier turn. In front of it a turn leaves two tokens fewer or as many, so
   that the parity of its place stays; results stand at even places and can be read. -/
set_option autoImplicit false

namespace PocketCalculator.Reduction

structure Traced where
  token : Token
  -- The place in the submitted expression; none for the result of a turn.
  origin : Option Nat

def Traced.result (n : Numeral) : Traced := ⟨.numeral n, none⟩

-- At a place of a working copy: a token that came from a place of the same parity, or a result that can be read.
def Traced.StandsAt (submitted : Expression) (place : Nat) (held : Traced) : Prop :=
  match held.origin with
  | some origin => submitted[origin]? = some held.token ∧ origin % 2 = place % 2
  | none => place % 2 = 0 ∧ ∃ n, held.token = .numeral n ∧ n.wellFormed = true

def traced (submitted : Expression) : List Traced := submitted.mapIdx fun place token => ⟨token, some place⟩

theorem traced_untraced (submitted : Expression) : (traced submitted).map (·.token) = submitted := by
  apply List.ext_getElem?
  intro place
  rw [traced, List.getElem?_map, List.getElem?_mapIdx, Option.map_map]
  exact Option.map_id_apply

structure TracedTurn where
  before : List Traced
  left : Traced
  slot : Traced
  right : Traced
  after : List Traced

namespace TracedTurn

def copy (turn : TracedTurn) : List Traced := turn.before ++ turn.left :: turn.slot :: turn.right :: turn.after

def untraced (turn : TracedTurn) : Turn :=
  ⟨turn.before.map (·.token), turn.left.token, turn.slot.token, turn.right.token, turn.after.map (·.token)⟩

def reduced (turn : TracedTurn) (n : Numeral) : List Traced := turn.before ++ .result n :: turn.after

def operand (turn : TracedTurn) : Side → Traced
  | .left => turn.left
  | .right => turn.right

theorem reduced_untraced (turn : TracedTurn) (n : Numeral) :
    (turn.reduced n).map (·.token) = turn.untraced.reduced n := by
  simp only [reduced, Traced.result, List.map_append, List.map_cons, untraced, Turn.reduced]

theorem of_untraced (copy : List Traced) (turn : Turn) (same : copy.map (·.token) = turn.tokens) :
    ∃ source : TracedTurn, source.copy = copy ∧ source.untraced = turn := by
  rw [Turn.tokens, List.map_eq_append_iff] at same
  obtain ⟨before, window, rfl, beforeIs, windowIs⟩ := same
  obtain ⟨left, behindLeft, rfl, leftIs, windowIs⟩ := List.map_eq_cons_iff.mp windowIs
  obtain ⟨slot, behindSlot, rfl, slotIs, windowIs⟩ := List.map_eq_cons_iff.mp windowIs
  obtain ⟨right, after, rfl, rightIs, afterIs⟩ := List.map_eq_cons_iff.mp windowIs
  refine ⟨⟨before, left, slot, right, after⟩, rfl, ?_⟩
  simp only [untraced, beforeIs, leftIs, slotIs, rightIs, afterIs]

theorem reduced_at (turn : TracedTurn) (n : Numeral) (place : Nat) (held : Traced)
    (found : (turn.reduced n)[place]? = some held) :
    turn.copy[place]? = some held ∨ (place = turn.before.length ∧ held = .result n) ∨
      turn.copy[place + 2]? = some held := by
  rw [reduced] at found
  rcases Nat.lt_trichotomy place turn.before.length with earlier | same | later
  · rw [List.getElem?_append_left earlier] at found
    exact .inl (by rw [copy, List.getElem?_append_left earlier, found])
  · subst same
    rw [List.getElem?_append_right (Nat.le_refl _), Nat.sub_self, List.getElem?_cons_zero] at found
    exact .inr (.inl ⟨rfl, (Option.some.inj found).symm⟩)
  · obtain ⟨further, rfl⟩ : ∃ further, place = turn.before.length + (further + 1) :=
      ⟨place - turn.before.length - 1, by omega⟩
    rw [List.getElem?_append_right (Nat.le_add_right _ _), Nat.add_sub_cancel_left, List.getElem?_cons_succ] at found
    refine .inr (.inr ?_)
    rw [copy, Nat.add_assoc, List.getElem?_append_right (Nat.le_add_right _ _), Nat.add_sub_cancel_left,
      List.getElem?_cons_succ, List.getElem?_cons_succ, List.getElem?_cons_succ, found]

theorem window_at (turn : TracedTurn) :
    turn.copy[turn.before.length]? = some turn.left ∧ turn.copy[turn.before.length + 1]? = some turn.slot ∧
      turn.copy[turn.before.length + 2]? = some turn.right := by
  simp [copy]

end TracedTurn

section

variable (settings : Settings) (submitted : Expression)

-- The copies of the submitted expression that a run comes to, turn by turn.
inductive WorkingCopy : List Traced → Prop where
  | submitted : WorkingCopy (traced submitted)
  | reduced (turn : TracedTurn) (n : Numeral) (earlier : WorkingCopy turn.copy)
      (found : turn? (turn.copy.map (·.token)) = some turn.untraced)
      (done : turn.untraced.combined settings = .ok n) : WorkingCopy (turn.reduced n)

structure FailsAt (turn : TracedTurn) (failure : Failure) : Prop where
  reached : WorkingCopy settings submitted turn.copy
  found : turn? (turn.copy.map (·.token)) = some turn.untraced
  failed : turn.untraced.combined settings = .error failure

structure Kept (copy : List Traced) : Prop where
  stands : ∀ place (held : Traced), copy[place]? = some held → held.StandsAt submitted place
  -- An operator among the operands is never used up.
  operators : ∀ origin o, submitted[origin]? = some (.operator o) → origin % 2 = 0 →
    ⟨.operator o, some origin⟩ ∈ copy

theorem submitted_kept : Kept submitted (traced submitted) where
  stands := by
    intro place held found
    rw [traced, List.getElem?_mapIdx] at found
    obtain ⟨token, there, rfl⟩ := Option.map_eq_some_iff.mp found
    exact ⟨there, rfl⟩
  operators := by
    intro origin o there _
    apply List.mem_of_getElem? (i := origin)
    rw [traced, List.getElem?_mapIdx, there, Option.map_some]

variable {settings submitted}

theorem result_stands (turn : TracedTurn) (n : Numeral) (even : turn.before.length % 2 = 0)
    (done : turn.untraced.combined settings = .ok n) : (Traced.result n).StandsAt submitted turn.before.length :=
  ⟨even, n, rfl, n.finite_well_formed (combined_finite settings _ _ _ n done)⟩

theorem turn_kept (turn : TracedTurn) (n : Numeral) (kept : Kept submitted turn.copy)
    (even : turn.before.length % 2 = 0) (done : turn.untraced.combined settings = .ok n) :
    Kept submitted (turn.reduced n) := by
  refine ⟨fun place held found => ?_, fun origin o there evenOrigin => ?_⟩
  · rcases turn.reduced_at n place held found with same | ⟨rfl, rfl⟩ | further
    · exact kept.stands place held same
    · exact result_stands turn n even done
    · have stands := kept.stands (place + 2) held further
      rw [Traced.StandsAt, Nat.add_mod_right] at stands
      exact stands
  · obtain ⟨z, computes, _⟩ := combined_succeeds settings _ _ _ n done
    obtain ⟨l, r, leftIs, rightIs, _, _⟩ := computes.operands
    have member := kept.operators origin o there evenOrigin
    simp only [TracedTurn.copy, List.mem_append, List.mem_cons] at member
    rw [TracedTurn.reduced, List.mem_append, List.mem_cons]
    rcases member with before | left | slot | right | after
    · exact .inl before
    · rw [TracedTurn.untraced, ← left] at leftIs
      cases leftIs
    · have stands := kept.stands _ _ turn.window_at.2.1
      rw [← slot] at stands
      have odd : origin % 2 = (turn.before.length + 1) % 2 := stands.2
      omega
    · rw [TracedTurn.untraced, ← right] at rightIs
      cases rightIs
    · exact .inr (.inr after)

theorem copy_kept (copy : List Traced) (reached : WorkingCopy settings submitted copy) : Kept submitted copy := by
  induction reached with
  | submitted => exact submitted_kept submitted
  | reduced turn n earlier found done ih =>
      have even := (turn_tokens _ turn.untraced found).2
      rw [TracedTurn.untraced, List.length_map] at even
      exact turn_kept turn n ih even done

theorem run_fails_at (tokens : Expression) (copy : List Traced) (reached : WorkingCopy settings submitted copy)
    (same : copy.map (·.token) = tokens) (failure : Failure) (failed : Scan.run settings ⟨tokens, 0⟩ = .error failure) :
    (∃ shown, failure = .fault (.missingElement shown)) ∨ ∃ turn, FailsAt settings submitted turn failure := by
  refine Scan.run_induction settings (motive := fun tokens outcome => ∀ copy, WorkingCopy settings submitted copy →
    copy.map (·.token) = tokens → outcome = .error failure →
    (∃ shown, failure = .fault (.missingElement shown)) ∨ ∃ turn, FailsAt settings submitted turn failure)
    ?_ ?_ ?_ ?_ tokens copy reached same failed
  · intro n _ _ _ impossible
    cases impossible
  · intro tokens _ _ _ _ _ missed
    exact .inl ⟨_, (Except.error.inj missed).symm⟩
  · intro tokens turn _ found refused copy reached same stopped
    cases stopped
    obtain ⟨source, rfl, rfl⟩ := TracedTurn.of_untraced copy turn (same.trans (turn_tokens tokens turn found).1.symm)
    exact .inr ⟨source, reached, same ▸ found, refused⟩
  · intro tokens turn n outcome _ found done later copy reached same
    obtain ⟨source, rfl, rfl⟩ := TracedTurn.of_untraced copy turn (same.trans (turn_tokens tokens turn found).1.symm)
    exact later _ (.reduced source n reached (same ▸ found) done) (source.reduced_untraced n)

end

end PocketCalculator.Reduction
