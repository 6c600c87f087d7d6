import LogRelay.Proofs.Source.History
import LogRelay.Source.Script

/-!
# What lasts against a script

Against a script a client takes one step after the other, is asked to stop and may be cancelled. What
all of these keep holds of the client that is played (`Keeper.Lasts.play`).
-/

namespace LogRelay

/-- What comes about is no failure other than one of the operating system. -/
def Turn.Tame {Value : Type} (turn : Turn Value) : Prop :=
  ∀ fault, turn.outcome = some (.error fault) → fault.isSystem = true

/-- Whatever comes about is no failure other than one of the operating system. -/
structure Script.Tame (script : Script) : Prop where
  connects : ∀ turn ∈ script.connects, turn.Tame
  sending : script.sending.Tame
  reads : ∀ turn ∈ script.reads, turn.Tame
  closing : script.closing.Tame

/-- The client waits for something. -/
def ClientPhase.Waits (phase : ClientPhase) : Prop := ∀ ending, phase ≠ .ended ending

namespace Keeper

open Client

variable {State Value : Type}

/-- What the steps of a client keep, and cancelling it when its delivery is finished. -/
structure Lasts (keeper : Keeper State) (kept : Client State → Prop) : Prop where
  step : ∀ {client after : Client State} {happening : Happening} {notes : Journal},
    kept client → client.phase.Waits → Step keeper.options keeper.rules client happening after notes →
      happening.Tame → kept after
  cancel : ∀ {client : Client State}, kept client → client.phase.Waits →
    client.delivery.finished = true → kept client.cancel

variable {keeper : Keeper State} {kept : Client State → Prop} {client : Client State}

/-- What comes about is a step of the client, perhaps after somebody has stopped the delivery. What
never does may have the client cancelled. -/
theorem Lasts.live (lasts : keeper.Lasts kept) (happening : Except SystemFault Value → Happening)
    {turn : Turn Value} (tame : turn.Tame) (waits : client.phase.Waits) (is_kept : kept client)
    {step : Client State → Except SystemFault Value → Client State × Journal}
    (happens : ∀ result, (∀ fault, result = .error fault → fault.isSystem = true) →
      (happening result).Tame)
    (steps : ∀ before result, before.phase = client.phase →
      Step keeper.options keeper.rules before (happening result) (step before result).1
        (step before result).2) :
    kept (keeper.live client turn step).1 := by
  have stopped : kept (if turn.stops then client.stop else client) ∧
      (if turn.stops then client.stop else client).phase = client.phase := by
    split
    · exact ⟨lasts.step is_kept waits .stopped trivial, rfl⟩
    · exact ⟨is_kept, rfl⟩
  simp only [Keeper.live]
  generalize (if turn.stops then client.stop else client) = before at stopped
  rcases stopped with ⟨kept_before, same_phase⟩
  rw [← same_phase] at waits
  split
  · rename_i result outcome
    apply lasts.step kept_before waits (steps before result same_phase)
    apply happens
    intro fault fails
    exact tame fault (fails ▸ outcome)
  · split
    · rename_i finished
      exact lasts.cancel kept_before waits finished
    · exact kept_before

theorem waits_of_eq {phase other : ClientPhase} (same : phase = other)
    (elsewhere : ∀ ending, other ≠ .ended ending) : phase.Waits := by
  rw [same]
  exact elsewhere

theorem Lasts.playConnects (lasts : keeper.Lasts kept) {turns : List (Turn Unit)}
    (tame : ∀ turn ∈ turns, turn.Tame) (connecting : client.phase = .connecting)
    (is_kept : kept client) : kept (keeper.playConnects client turns).1 := by
  induction turns generalizing client with
  | nil =>
      apply lasts.step is_kept (waits_of_eq connecting (by simp)) (.connected connecting (.ok ()))
      simp [Happening.Tame]
  | cons turn turns ih =>
      have kept_after : kept (keeper.live client turn (Client.onConnect keeper.options)).1 := by
        apply lasts.live .connected (tame turn List.mem_cons_self)
          (waits_of_eq connecting (by simp)) is_kept
        · exact fun result tame_result => tame_result
        · intro before result same_phase
          exact .connected (same_phase.trans connecting) result
      simp only [Keeper.playConnects]
      split
      case isTrue again =>
        simp only [Bool.and_eq_true, beq_iff_eq] at again
        apply ih _ again.2 kept_after
        intro other other_mem
        exact tame other (List.mem_cons_of_mem _ other_mem)
      case isFalse => exact kept_after

theorem Lasts.playReads (lasts : keeper.Lasts kept) {turns : List (Turn (List UInt8))}
    (tame : ∀ turn ∈ turns, turn.Tame) (reading : client.phase = .reading)
    (is_kept : kept client) : kept (keeper.playReads client turns).client := by
  induction turns generalizing client with
  | nil =>
      apply lasts.step is_kept (waits_of_eq reading (by simp)) (.read reading (.ok []))
      simp [Happening.Tame]
  | cons turn turns ih =>
      have kept_after : kept (keeper.live client turn (Client.onRead keeper.rules)).1 := by
        apply lasts.live .read (tame turn List.mem_cons_self)
          (waits_of_eq reading (by simp)) is_kept
        · exact fun result tame_result => tame_result
        · intro before result same_phase
          exact .read (same_phase.trans reading) result
      simp only [Keeper.playReads]
      split
      case isTrue again =>
        simp only [Bool.and_eq_true, beq_iff_eq] at again
        apply ih _ again.2 kept_after
        intro other other_mem
        exact tame other (List.mem_cons_of_mem _ other_mem)
      case isFalse => exact kept_after

variable {script : Script}

theorem Lasts.connect (lasts : keeper.Lasts kept) (tame : script.Tame) (is_kept : kept client) :
    kept (keeper.connect client script).client ∧
      (keeper.connect client script).unread = script.reads := by
  rw [Keeper.connect]
  split
  · rename_i connecting
    exact ⟨lasts.playConnects tame.connects connecting is_kept, rfl⟩
  · exact ⟨is_kept, rfl⟩

theorem Lasts.send (lasts : keeper.Lasts kept) (tame : script.Tame) {played : Played State}
    (is_kept : kept played.client) :
    kept (keeper.send played script).client ∧
      (keeper.send played script).unread = played.unread := by
  rw [Keeper.send]
  split
  · rename_i sending
    refine ⟨?_, rfl⟩
    apply lasts.live .sent tame.sending (waits_of_eq sending (by simp)) is_kept
    · exact fun result tame_result => tame_result
    · intro before result same_phase
      exact .sent (same_phase.trans sending) result
  · exact ⟨is_kept, rfl⟩

theorem Lasts.read (lasts : keeper.Lasts kept) {played : Played State}
    (tame : ∀ turn ∈ played.unread, turn.Tame) (is_kept : kept played.client) :
    kept (keeper.read played).client := by
  rw [Keeper.read]
  split
  · rename_i reading
    exact lasts.playReads tame reading is_kept
  · exact is_kept

theorem Lasts.close (lasts : keeper.Lasts kept) (tame : script.Tame) {played : Played State}
    (is_kept : kept played.client) : kept (keeper.close played script).client := by
  rw [Keeper.close]
  split
  · rename_i ending closing
    apply lasts.live .closed tame.closing (waits_of_eq closing (by simp)) is_kept
    · exact fun result tame_result => tame_result
    · intro before result same_phase
      exact .closed (same_phase.trans closing) result
  · exact is_kept

/-- What lasts and holds of a client at its beginning holds of the client that is played. -/
theorem Lasts.play (lasts : keeper.Lasts kept) {delivery : Delivery State} (tame : script.Tame)
    (begins : kept (.start keeper.options delivery)) : kept (keeper.play delivery script).client := by
  rcases lasts.connect tame begins with ⟨connected, unread⟩
  rcases lasts.send tame connected with ⟨sent, unread_still⟩
  apply lasts.close tame
  apply lasts.read _ sent
  rw [unread_still, unread]
  exact tame.reads

end Keeper

end LogRelay
