import VoiceProcessing.Failure

/-!
# Interleaved and separate channels

An interleaved frame holds the first sample of every channel, then the second of every channel, and
so on; an engine wants one buffer for each channel. `deinterleave` deals a frame out to channel
buffers and `interleave` merges them again.

Both move along a frame with a stride: of every `count` positions one belongs to a channel. The
parameter `wait` counts down to the next such position.
-/

namespace VoiceProcessing

variable {α : Type}

namespace Stride

/-- The elements of a list at position `wait` and every `count` positions after it. -/
def gather (count : Nat) : Nat → List α → List α
  | _, [] => []
  | 0, x :: xs => x :: gather count (count - 1) xs
  | wait + 1, _ :: xs => gather count wait xs

/-- A list with the elements at position `wait` and every `count` positions after it replaced by
those of `source`, as far as both go. -/
def scatter (count : Nat) : Nat → List α → List α → List α
  | _, [], _ => []
  | 0, x :: xs, [] => x :: xs
  | 0, _ :: xs, s :: source => s :: scatter count (count - 1) xs source
  | wait + 1, x :: xs, source => x :: scatter count wait xs source

/-- Gathering reads every `count`-th element. -/
theorem getElem?_gather {count : Nat} (hcount : 0 < count) (wait : Nat) (xs : List α) (i : Nat) :
    (gather count wait xs)[i]? = xs[wait + i * count]? := by
  induction xs generalizing wait i with
  | nil => simp [gather]
  | cons x xs ih =>
    cases wait with
    | zero =>
      cases i with
      | zero => simp [gather]
      | succ i =>
        have hindex : 0 + (i + 1) * count = count - 1 + i * count + 1 := by
          rw [Nat.succ_mul]
          omega
        rw [hindex, List.getElem?_cons_succ, ← ih]
        rfl
    | succ wait =>
      have hindex : wait + 1 + i * count = wait + i * count + 1 := by omega
      rw [hindex, List.getElem?_cons_succ, ← ih]
      rfl

/-- Scattering keeps the length. -/
@[simp] theorem length_scatter (count wait : Nat) (xs source : List α) :
    (scatter count wait xs source).length = xs.length := by
  induction xs generalizing wait source with
  | nil => simp [scatter]
  | cons x xs ih =>
    cases wait with
    | zero => cases source <;> simp [scatter, ih]
    | succ wait => simp [scatter, ih]

/-- Scattering replaces every `count`-th element for which there is a source. -/
theorem getElem?_scatter {count : Nat} (hcount : 0 < count) (wait : Nat) (xs source : List α)
    (j : Nat) :
    (scatter count wait xs source)[j]? =
      xs[j]?.map fun old =>
        if wait ≤ j ∧ (j - wait) % count = 0 then (source[(j - wait) / count]?).getD old
        else old := by
  induction xs generalizing wait source j with
  | nil => simp [scatter]
  | cons x xs ih =>
    cases wait with
    | zero =>
      cases source with
      | nil => simp [scatter]
      | cons s source =>
        cases j with
        | zero => simp [scatter]
        | succ j =>
          rw [scatter, List.getElem?_cons_succ, List.getElem?_cons_succ, ih]
          congr 1
          funext old
          by_cases hj : count - 1 ≤ j
          · have hstep : j + 1 - 0 = (j - (count - 1)) + count := by omega
            rw [hstep, Nat.add_mod_right, Nat.add_div_right _ hcount, List.getElem?_cons_succ]
            simp [hj]
          · have hmod : (j + 1 - 0) % count ≠ 0 := by
              rw [Nat.mod_eq_of_lt (by omega)]
              omega
            rw [if_neg fun h => hj h.1, if_neg fun h => hmod h.2]
    | succ wait =>
      cases j with
      | zero => simp [scatter]
      | succ j =>
        rw [scatter, List.getElem?_cons_succ, List.getElem?_cons_succ, ih]
        simp

end Stride

/-- Deal the samples of an interleaved frame out to channel buffers, whose earlier contents are
discarded. Without channels nothing happens; otherwise the number of samples must be a multiple of
the number of channels. -/
def deinterleave (frame : List α) (channels : List (List α)) : Except Fault (List (List α)) :=
  let count := channels.length
  if count = 0 then .ok channels
  else if frame.length % count ≠ 0 then .error .unevenSplit
  else .ok (channels.mapIdx fun k _ => Stride.gather count k frame)

/-- Write channel buffers into an interleaved frame, one channel after the other. Places for which a
channel has no sample keep what they held, and samples without a place are dropped. -/
def interleave (channels : List (List α)) (frame : List α) : List α :=
  channels.zipIdx.foldl
    (fun frame (channel, k) => Stride.scatter channels.length k frame channel) frame

end VoiceProcessing
