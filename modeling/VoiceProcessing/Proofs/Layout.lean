import VoiceProcessing.Interleaving

/-!
# The layout of a frame

A frame of `count` channels keeps the sample of channel `k` at time `i` in place `i * count + k`.
Splitting a frame reads along this layout and merging writes along it. Both are stated here place by
place, for channels and frames of any lengths, so that nothing below has to follow the strides
again.
-/

namespace VoiceProcessing

variable {α : Type}

namespace Stride

/-- Gathering finds a sample at exactly those times whose place lies in the frame. -/
theorem lt_length_gather {count : Nat} (hcount : 0 < count) (k : Nat) (xs : List α) (i : Nat) :
    i < (gather count k xs).length ↔ k + i * count < xs.length := by
  rw [← Nat.not_le, ← Nat.not_le, ← List.getElem?_eq_none_iff, getElem?_gather hcount,
    List.getElem?_eq_none_iff]

/-- Every channel of a frame of `count * n` samples has `n` of them. -/
theorem length_gather {count k n : Nat} (hk : k < count) {xs : List α}
    (hxs : xs.length = count * n) : (gather count k xs).length = n := by
  have hcount : 0 < count := Nat.zero_lt_of_lt hk
  have hlt (i : Nat) : i < (gather count k xs).length ↔ i < n := by
    rw [lt_length_gather hcount, hxs, Nat.add_comm, Nat.mul_comm count n]
    constructor
    · intro h
      exact Nat.lt_of_mul_lt_mul_right (Nat.lt_of_le_of_lt (Nat.le_add_right _ _) h)
    · intro h
      calc
        i * count + k < i * count + count := Nat.add_lt_add_left hk _
        _ = (i + 1) * count := (Nat.succ_mul i count).symm
        _ ≤ n * count := Nat.mul_le_mul_right count h
  exact Nat.le_antisymm (Nat.le_of_not_lt fun h => Nat.lt_irrefl _ ((hlt n).mp h))
    (Nat.le_of_not_lt fun h => Nat.lt_irrefl _ ((hlt _).mpr h))

/-- The places that a channel owns are those with its residue. -/
theorem owns_iff {count k : Nat} (hk : k < count) (j : Nat) :
    (k ≤ j ∧ (j - k) % count = 0) ↔ j % count = k := by
  constructor
  · intro howned
    obtain ⟨hle, hmod⟩ := howned
    obtain ⟨q, hq⟩ := Nat.dvd_of_mod_eq_zero hmod
    have hj : j = k + count * q := by omega
    rw [hj, Nat.add_mul_mod_self_left, Nat.mod_eq_of_lt hk]
  · intro hj
    have hdiv := Nat.div_add_mod j count
    have hsub : j - k = count * (j / count) := by omega
    exact ⟨by omega, by rw [hsub, Nat.mul_mod_right]⟩

/-- Within the places that a channel owns, its first place does not count for the time. -/
theorem time_eq {count k j : Nat} (hj : j % count = k) : (j - k) / count = j / count := by
  have hdiv := Nat.div_add_mod j count
  have hsub : j - k = count * (j / count) := by omega
  rcases Nat.eq_zero_or_pos count with rfl | hcount
  · simp
  · rw [hsub, Nat.mul_div_cancel_left _ hcount]

end Stride

/-- The channels of a frame. -/
def split (count : Nat) (frame : List α) : List (List α) :=
  (List.range count).map fun k => Stride.gather count k frame

/-- There are as many channels as asked for. -/
@[simp] theorem length_split (count : Nat) (frame : List α) :
    (split count frame).length = count := by
  simp [split]

/-- Each channel of a frame, by its number. -/
theorem getElem?_split {count k : Nat} (hk : k < count) (frame : List α) :
    (split count frame)[k]? = some (Stride.gather count k frame) := by
  simp [split, hk]

/-- The samples of a channel come from the places of the layout. -/
theorem getElem?_getElem?_split {count k : Nat} (hk : k < count) (frame : List α) (i : Nat) :
    (split count frame)[k]?.bind (·[i]?) = frame[i * count + k]? := by
  rw [getElem?_split hk, Option.bind_some, Stride.getElem?_gather (Nat.zero_lt_of_lt hk),
    Nat.add_comm]

/-- The channels of a frame of `count * n` samples have `n` of them each. -/
theorem length_of_mem_split {count n : Nat} {frame : List α} (hframe : frame.length = count * n)
    {channel : List α} (hchannel : channel ∈ split count frame) : channel.length = n := by
  obtain ⟨k, hk, rfl⟩ := List.mem_map.mp hchannel
  exact Stride.length_gather (List.mem_range.mp hk) hframe

/-- Dealing out a frame whose length fits gives its channels, whatever the buffers held before. -/
theorem deinterleave_eq_split {channels : List (List α)} (hchannels : 0 < channels.length)
    {frame : List α} (hframe : channels.length ∣ frame.length) :
    deinterleave frame channels = .ok (split channels.length frame) := by
  have hbuffers : (channels.mapIdx fun k _ => Stride.gather channels.length k frame) =
      split channels.length frame := by
    apply List.ext_getElem
    · simp
    · intro k _ _
      simp [split]
  simp only [deinterleave, Nat.ne_of_gt hchannels, Nat.mod_eq_zero_of_dvd hframe, if_false,
    ne_eq, not_true_eq_false, hbuffers]

/-- Writing some of the channels, numbered from `start`, fills exactly the places that they own. -/
private theorem getElem?_writeChannels {count : Nat} (channels : List (List α)) (start : Nat)
    (hcount : start + channels.length ≤ count) (frame : List α) (j : Nat) :
    ((channels.zipIdx start).foldl
        (fun frame (channel, k) => Stride.scatter count k frame channel) frame)[j]? =
      frame[j]?.map fun old =>
        if start ≤ j % count then
          ((channels[j % count - start]?).bind (·[j / count]?)).getD old
        else old := by
  induction channels generalizing start frame with
  | nil => simp
  | cons channel channels ih =>
    simp only [List.length_cons] at hcount
    have hstart : start < count := by omega
    rw [List.zipIdx_cons, List.foldl_cons, ih (start + 1) (by omega),
      Stride.getElem?_scatter (Nat.zero_lt_of_lt hstart), Option.map_map]
    congr 1
    funext old
    -- The channel written first owns the residue `start`; the induction speaks of the later ones.
    simp only [Function.comp_apply, Stride.owns_iff hstart]
    by_cases howned : j % count = start
    · rw [if_pos howned, if_neg (by omega), if_pos (by omega), Stride.time_eq howned, howned,
        Nat.sub_self]
      rfl
    · rw [if_neg howned]
      by_cases hlater : start + 1 ≤ j % count
      · have hindex : j % count - start = j % count - (start + 1) + 1 := by omega
        rw [if_pos hlater, if_pos (by omega), hindex, List.getElem?_cons_succ]
      · rw [if_neg hlater, if_neg (by omega)]

/-- Merging fills each place with the sample that the layout assigns to it, if there is one. -/
theorem getElem?_interleave (channels : List (List α)) (frame : List α) (j : Nat) :
    (interleave channels frame)[j]? =
      frame[j]?.map fun old =>
        ((channels[j % channels.length]?).bind (·[j / channels.length]?)).getD old := by
  rw [interleave, getElem?_writeChannels channels 0 (by omega)]
  simp only [Nat.zero_le, if_true, Nat.sub_zero]

/-- Merging keeps the length of the frame. -/
@[simp] theorem length_interleave (channels : List (List α)) (frame : List α) :
    (interleave channels frame).length = frame.length := by
  have hkeeps (numbered : List (List α × Nat)) : ∀ frame : List α,
      (numbered.foldl (fun frame (channel, k) =>
        Stride.scatter channels.length k frame channel) frame).length = frame.length := by
    induction numbered with
    | nil => intro _; rfl
    | cons channel numbered ih => intro frame; rw [List.foldl_cons, ih, Stride.length_scatter]
  exact hkeeps _ frame

/-- Merging the channels of a frame into it gives the frame back. -/
theorem interleave_split {count : Nat} (hcount : 0 < count) (frame : List α) :
    interleave (split count frame) frame = frame := by
  apply List.ext_getElem?
  intro j
  rw [getElem?_interleave, length_split, getElem?_getElem?_split (Nat.mod_lt j hcount),
    Nat.div_add_mod']
  cases frame[j]? <;> rfl

/-- Merging full channels puts the sample of channel `k` at time `i` where the layout has it. -/
theorem getElem?_interleave_of_full {channels : List (List α)} {n : Nat}
    (hfull : ∀ channel ∈ channels, channel.length = n) {frame : List α}
    (hframe : frame.length = channels.length * n) {k i : Nat} (hk : k < channels.length)
    (hi : i < n) :
    (interleave channels frame)[i * channels.length + k]? = channels[k]?.bind (·[i]?) := by
  have hplace : i * channels.length + k < frame.length := by
    calc
      i * channels.length + k < i * channels.length + channels.length := Nat.add_lt_add_left hk _
      _ = (i + 1) * channels.length := (Nat.succ_mul i _).symm
      _ ≤ n * channels.length := Nat.mul_le_mul_right _ hi
      _ = frame.length := by rw [hframe, Nat.mul_comm]
  have hmod : (i * channels.length + k) % channels.length = k := by
    rw [Nat.add_comm, Nat.add_mul_mod_self_right, Nat.mod_eq_of_lt hk]
  have hdiv : (i * channels.length + k) / channels.length = i := by
    rw [Nat.add_comm, Nat.add_mul_div_right _ _ (Nat.zero_lt_of_lt hk), Nat.div_eq_of_lt hk,
      Nat.zero_add]
  have hsample : i < channels[k].length := by rw [hfull _ (List.getElem_mem hk)]; exact hi
  rw [getElem?_interleave, hmod, hdiv, List.getElem?_eq_getElem hplace,
    List.getElem?_eq_getElem hk, Option.bind_some, List.getElem?_eq_getElem hsample]
  rfl

/-- Channels of `n` samples each and the frame that holds them in the layout. -/
structure LaidOut (count n : Nat) (channels : List (List α)) (frame : List α) : Prop where
  length_channels : channels.length = count
  length_channel : ∀ channel ∈ channels, channel.length = n
  length_frame : frame.length = count * n
  place : ∀ k < count, ∀ i < n, frame[i * count + k]? = channels[k]?.bind (·[i]?)

/-- Splitting a frame gives the channels that it holds. -/
theorem laidOut_split {count n : Nat} {frame : List α} (hframe : frame.length = count * n) :
    LaidOut count n (split count frame) frame where
  length_channels := length_split count frame
  length_channel _ hchannel := length_of_mem_split hframe hchannel
  length_frame := hframe
  place _ hk i _ := (getElem?_getElem?_split hk frame i).symm

/-- Merging what the channels of a frame were overwritten with gives the frame that holds it. -/
theorem LaidOut.overwrite {count n : Nat} {channels : List (List α)} {frame : List α}
    (hlaid : LaidOut count n channels frame) {overwritten : List (List α)}
    (hlengths : overwritten.map List.length = channels.map List.length) :
    LaidOut count n overwritten (interleave overwritten frame) := by
  have hcount : overwritten.length = count := by
    have hsame := congrArg List.length hlengths
    rw [List.length_map, List.length_map] at hsame
    exact hsame.trans hlaid.length_channels
  have hfull : ∀ channel ∈ overwritten, channel.length = n := by
    intro channel hchannel
    have hlength : channel.length ∈ channels.map List.length :=
      hlengths ▸ List.mem_map_of_mem hchannel
    obtain ⟨original, horiginal, hsame⟩ := List.mem_map.mp hlength
    exact hsame.symm.trans (hlaid.length_channel original horiginal)
  have hframe : frame.length = overwritten.length * n := by rw [hcount, hlaid.length_frame]
  refine ⟨hcount, hfull, ?_, ?_⟩
  · rw [length_interleave, hlaid.length_frame]
  · intro k hk i hi
    subst hcount
    exact getElem?_interleave_of_full hfull hframe hk hi

end VoiceProcessing
