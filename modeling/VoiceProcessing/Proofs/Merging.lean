import VoiceProcessing.Proofs.Layout

/-!
# Merging channels of any lengths

Merging does not ask whether the channels fit the frame. A channel can be too short for its places,
too long for them, or empty, and the frame need not hold a sample of every channel. Every place
belongs to exactly one channel, so each is settled by that channel alone, and the channels can be
written in any order.
-/

namespace VoiceProcessing

variable {α : Type}

namespace Stride

/-- Scattering, place by place: a channel fills the places of its residue, as far as it goes. -/
theorem getElem?_scatter_of_lt {count k : Nat} (hk : k < count) (frame channel : List α) (j : Nat) :
    (scatter count k frame channel)[j]? =
      frame[j]?.map fun old =>
        if j % count = k then (channel[j / count]?).getD old else old := by
  rw [getElem?_scatter (Nat.zero_lt_of_lt hk)]
  congr 1
  funext old
  simp only [owns_iff hk]
  by_cases howned : j % count = k
  · rw [if_pos howned, if_pos howned, time_eq howned]
  · rw [if_neg howned, if_neg howned]

/-- Two channels have no place in common, so it does not matter which is written first. -/
theorem scatter_comm {count k l : Nat} (hk : k < count) (hl : l < count) (hne : k ≠ l)
    (frame a b : List α) :
    scatter count l (scatter count k frame a) b = scatter count k (scatter count l frame b) a := by
  apply List.ext_getElem?
  intro j
  simp only [getElem?_scatter_of_lt hk, getElem?_scatter_of_lt hl, Option.map_map]
  congr 1
  funext old
  simp only [Function.comp_apply]
  by_cases hfirst : j % count = k
  · have hother : j % count ≠ l := fun hsecond => hne (hfirst.symm.trans hsecond)
    simp only [if_pos hfirst, if_neg hother]
  · simp only [if_neg hfirst]

end Stride

/-- Write numbered channels into a frame of `count` channels, in the order given. -/
def writeInOrder (count : Nat) (order : List (List α × Nat)) (frame : List α) : List α :=
  order.foldl (fun frame (channel, k) => Stride.scatter count k frame channel) frame

/-- Merging writes the channels in the order of their numbers. -/
theorem interleave_eq_writeInOrder (channels : List (List α)) (frame : List α) :
    interleave channels frame = writeInOrder channels.length channels.zipIdx frame :=
  rfl

/-- Among the numbered channels of a frame, the number tells the channel. -/
theorem eq_of_mem_zipIdx {channels : List (List α)} {a b : List α} {k : Nat}
    (ha : (a, k) ∈ channels.zipIdx) (hb : (b, k) ∈ channels.zipIdx) : a = b := by
  rw [List.mem_zipIdx_iff_getElem?] at ha hb
  exact Option.some.inj (ha.symm.trans hb)

/-- Writing the channels in another order gives the same frame. -/
theorem writeInOrder_of_perm {channels : List (List α)} {order : List (List α × Nat)}
    (horder : order.Perm channels.zipIdx) (frame : List α) :
    writeInOrder channels.length order frame = interleave channels frame := by
  rw [interleave_eq_writeInOrder, writeInOrder, writeInOrder]
  refine horder.foldl_eq' ?_ frame
  rintro ⟨a, k⟩ ha ⟨b, l⟩ hb frame
  have ha := horder.mem_iff.mp ha
  have hb := horder.mem_iff.mp hb
  by_cases hsame : k = l
  · -- Only a channel met with itself has the same number.
    subst hsame
    rw [eq_of_mem_zipIdx ha hb]
  · exact Stride.scatter_comm (List.snd_lt_of_mem_zipIdx ha) (List.snd_lt_of_mem_zipIdx hb) hsame
      frame a b

/-- A place holds the sample of its channel, or what it held if the channel is too short. -/
theorem getElem?_interleave_of_lt {channels : List (List α)} {frame : List α} {j : Nat}
    (hj : j < frame.length) {channel : List α}
    (hchannel : channels[j % channels.length]? = some channel) :
    (interleave channels frame)[j]? =
      if j / channels.length < channel.length then channel[j / channels.length]?
      else frame[j]? := by
  rw [getElem?_interleave, hchannel, Option.bind_some, List.getElem?_eq_getElem hj]
  by_cases hsample : j / channels.length < channel.length
  · rw [if_pos hsample, List.getElem?_eq_getElem hsample]
    rfl
  · rw [if_neg hsample, List.getElem?_eq_none (Nat.le_of_not_lt hsample)]
    rfl

/-- Only samples that have a place in the frame matter. -/
theorem interleave_congr {channels others : List (List α)} {frame : List α}
    (hcount : others.length = channels.length)
    (hagree : ∀ k < channels.length, ∀ i, i * channels.length + k < frame.length →
      others[k]?.bind (·[i]?) = channels[k]?.bind (·[i]?)) :
    interleave others frame = interleave channels frame := by
  apply List.ext_getElem?
  intro j
  rw [getElem?_interleave, getElem?_interleave, hcount]
  by_cases hj : j < frame.length
  · rcases Nat.eq_zero_or_pos channels.length with hnone | hsome
    · rw [List.eq_nil_of_length_eq_zero hnone, List.eq_nil_of_length_eq_zero (hcount.trans hnone)]
    · have hplace : j / channels.length * channels.length + j % channels.length < frame.length := by
        rwa [Nat.div_add_mod']
      rw [hagree _ (Nat.mod_lt j hsome) _ hplace]
  · rw [List.getElem?_eq_none (Nat.le_of_not_lt hj)]
    rfl

/-- Merging channels of any lengths into a frame of any length keeps its length, gives every place
the sample of its channel or leaves it alone, drops the samples without a place, and does not depend
on the order in which the channels are written. Without channels nothing changes. -/
theorem merging_settlesPlaces (channels : List (List α)) (frame : List α) :
    (interleave channels frame).length = frame.length ∧
    (0 < channels.length → ∀ j < frame.length, ∃ channel,
      channels[j % channels.length]? = some channel ∧
      (interleave channels frame)[j]? =
        if j / channels.length < channel.length then channel[j / channels.length]?
        else frame[j]?) ∧
    (∀ others : List (List α), others.length = channels.length →
      (∀ k < channels.length, ∀ i, i * channels.length + k < frame.length →
        others[k]?.bind (·[i]?) = channels[k]?.bind (·[i]?)) →
      interleave others frame = interleave channels frame) ∧
    (∀ order : List (List α × Nat), order.Perm channels.zipIdx →
      writeInOrder channels.length order frame = interleave channels frame) ∧
    (channels.length = 0 → interleave channels frame = frame) := by
  refine ⟨length_interleave channels frame, ?_, ?_, ?_, ?_⟩
  · intro hcount j hj
    have hchannel := List.getElem?_eq_getElem (Nat.mod_lt j hcount)
    exact ⟨_, hchannel, getElem?_interleave_of_lt hj hchannel⟩
  · intro others hcount hagree
    exact interleave_congr hcount hagree
  · intro order horder
    exact writeInOrder_of_perm horder frame
  · intro hnone
    rw [List.eq_nil_of_length_eq_zero hnone]
    rfl

/-- A channel that is too long, one that is empty and one that is too short are merged into a frame
of seven places, with the last channel written first: the surplus is dropped and four places keep
what they held. -/
theorem merging_settlesPlaces_of_ragged :
    let channels : List (List Nat) := [[1, 2, 3, 4, 5], [], [6]]
    let frame : List Nat := [90, 91, 92, 93, 94, 95, 96]
    writeInOrder 3 [([6], 2), ([], 1), ([1, 2, 3, 4, 5], 0)] frame = [1, 91, 6, 2, 94, 95, 3] ∧
      interleave [[1, 2, 3], [], [6]] frame = interleave channels frame ∧
      (interleave channels frame)[4]? = some 94 ∧ (interleave channels frame)[6]? = some 3 := by
  intro channels frame
  obtain ⟨-, hplace, hsurplus, horder, -⟩ := merging_settlesPlaces channels frame
  refine ⟨?_, ?_, ?_, ?_⟩
  · exact (horder [([6], 2), ([], 1), ([1, 2, 3, 4, 5], 0)] (by decide)).trans (by decide)
  · have hearly : ∀ k < 3, ∀ i < 3, ([[1, 2, 3], [], [6]] : List (List Nat))[k]?.bind (·[i]?) =
        channels[k]?.bind (·[i]?) := by decide
    apply hsurplus [[1, 2, 3], [], [6]] rfl
    intro k hk i hi
    have hplaces : i * 3 + k < 7 := hi
    exact hearly k hk i (by omega)
  · obtain ⟨channel, hchannel, hkept⟩ := hplace (by decide) 4 (by decide)
    have hempty : channels[4 % channels.length]? = some [] := by decide
    obtain rfl := Option.some.inj (hempty.symm.trans hchannel)
    exact hkept.trans (by decide)
  · obtain ⟨channel, hchannel, hfilled⟩ := hplace (by decide) 6 (by decide)
    have hlong : channels[6 % channels.length]? = some [1, 2, 3, 4, 5] := by decide
    obtain rfl := Option.some.inj (hlong.symm.trans hchannel)
    exact hfilled.trans (by decide)

end VoiceProcessing
