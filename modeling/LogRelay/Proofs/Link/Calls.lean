import LogRelay.Sink.Call
import Mathlib.Tactic.ByContra

/-!
# What further calls change

The views of a list of calls are folds and counts, so each of them follows from the view of the
calls before and from the calls that come after. On top of them stand the accounts of the sockets:
every socket has been opened once, numbers are given in the order of opening, and every socket but
the one that is held has been closed once.

An account does not say which call comes next. A link opens, closes and uses its socket by calls
that each take one account to the next.
-/

namespace LogRelay.Call

@[simp]
theorem liveTimers_append (calls later : List Call) :
    liveTimers (calls ++ later) = later.foldl onTimers (liveTimers calls) := by
  simp [liveTimers]

@[simp]
theorem watched_append (calls later : List Call) :
    watched (calls ++ later) = later.foldl onWatched (watched calls) := by
  simp [watched]

theorem closesOf_concat (calls : List Call) (made : Call) (socket : Nat) :
    closesOf (calls ++ [made]) socket =
      closesOf calls socket + if made = .close socket then 1 else 0 := by
  simp [closesOf, List.count_append, List.count_singleton, beq_iff_eq]

@[simp]
theorem socketCount_concat_opened (calls : List Call) (socket : Nat) :
    socketCount (calls ++ [opened socket]) = socketCount calls + 1 := by
  simp [socketCount]

theorem socketCount_concat_of_ne (calls : List Call) {made : Call}
    (not_opened : ∀ socket, made ≠ .opened socket) :
    socketCount (calls ++ [made]) = socketCount calls := by
  cases made with
  | opened socket => exact absurd rfl (not_opened socket)
  | _ => simp [socketCount]

/-- What the calls on sockets come to: the held socket is one of those opened, every socket was
opened once, and every socket but the held one was closed once. -/
structure Accounts (calls : List Call) (held : Option Nat) : Prop where
  held_lt : ∀ socket, held = some socket → socket < socketCount calls
  opens : ∀ socket, calls.count (.opened socket) = if socket < socketCount calls then 1 else 0
  closes : ∀ socket, closesOf calls socket =
    if socket < socketCount calls ∧ held ≠ some socket then 1 else 0

namespace Accounts

theorem nil : Accounts [] none := by
  refine ⟨?_, ?_, ?_⟩
  · intro socket held
    cases held
  · intro socket
    simp [socketCount]
  · intro socket
    simp [closesOf, socketCount]

variable {calls : List Call} {held : Option Nat}

/-- A call that neither opens nor closes a socket leaves the accounts as they are. -/
theorem concat (accounts : Accounts calls held) (made : Call)
    (not_opened : ∀ socket, made ≠ .opened socket) (not_close : ∀ socket, made ≠ .close socket) :
    Accounts (calls ++ [made]) held := by
  have sameCount := socketCount_concat_of_ne calls not_opened
  refine ⟨?_, ?_, ?_⟩
  · intro socket is_held
    rw [sameCount]
    exact accounts.held_lt socket is_held
  · intro socket
    rw [sameCount, List.count_append, accounts.opens socket]
    simp [not_opened socket]
  · intro socket
    rw [sameCount, closesOf_concat, accounts.closes socket]
    simp [not_close socket]

/-- Opening a socket under the next number, with no other held, is to hold it. -/
theorem concat_opened (accounts : Accounts calls none) :
    Accounts (calls ++ [.opened (socketCount calls)]) (some (socketCount calls)) := by
  refine ⟨?_, ?_, ?_⟩
  · intro socket is_held
    cases is_held
    simp
  · intro socket
    rw [List.count_append, accounts.opens socket]
    by_cases newest : socketCount calls = socket
    · subst newest
      simp
    · have iff : socket < socketCount calls + 1 ↔ socket < socketCount calls := by omega
      simp [newest, iff]
  · intro socket
    rw [closesOf_concat, accounts.closes socket]
    by_cases newest : socketCount calls = socket
    · subst newest
      simp
    · have iff : socket < socketCount calls + 1 ↔ socket < socketCount calls := by omega
      simp [newest, iff]

/-- Closing the held socket is to hold none. -/
theorem concat_close {socket : Nat} (accounts : Accounts calls (some socket)) :
    Accounts (calls ++ [.close socket]) none := by
  have sameCount : socketCount (calls ++ [.close socket]) = socketCount calls :=
    socketCount_concat_of_ne calls (by simp)
  have below := accounts.held_lt socket rfl
  refine ⟨?_, ?_, ?_⟩
  · intro other is_held
    cases is_held
  · intro other
    rw [sameCount, List.count_append, accounts.opens other]
    simp
  · intro other
    rw [sameCount, closesOf_concat, accounts.closes other]
    by_cases same : socket = other
    · subst same
      simp [below]
    · simp [same]

/-- A socket that was opened and is not held has been closed once. -/
theorem closesOf_eq_one (accounts : Accounts calls held) {socket : Nat}
    (was_opened : .opened socket ∈ calls) (not_held : held ≠ some socket) :
    closesOf calls socket = 1 := by
  have counted : 0 < calls.count (.opened socket) := List.count_pos_iff.mpr was_opened
  have below : socket < socketCount calls := by
    by_contra beyond
    simp [accounts.opens socket, beyond] at counted
  simp [accounts.closes socket, below, not_held]

end Accounts

end LogRelay.Call
