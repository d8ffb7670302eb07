import Mathlib.Data.List.TakeDrop
import VoiceProcessing.Proofs.Layout

/-!
# Splitting and merging are inverse

A frame and its channels determine each other by the layout, so splitting a frame and merging its
channels give back what was there before, in either order and whatever the buffers held.

Splitting is also carried out here buffer by buffer, as a computation on the buffers that can be
aborted at any point. It is aborted only before the first of them is touched.
-/

namespace VoiceProcessing

variable {α : Type}

namespace LaidOut

variable {count n : Nat} {channels : List (List α)} {frame : List α}

/-- The channels of a frame are what splitting it gives. -/
theorem channels_eq_split (hlaid : LaidOut count n channels frame) :
    channels = split count frame := by
  obtain ⟨rfl, hfull, hframe, hplace⟩ := hlaid
  apply List.ext_getElem (length_split _ frame).symm
  intro k hk hk'
  have hchannel : channels[k].length = n := hfull _ (List.getElem_mem hk)
  have hsplit : (split channels.length frame)[k].length = n :=
    length_of_mem_split hframe (List.getElem_mem hk')
  apply List.ext_getElem (hchannel.trans hsplit.symm)
  intro i hi hi'
  have hsample := (hplace k hk i (hchannel ▸ hi)).symm.trans
    (getElem?_getElem?_split hk frame i).symm
  simpa only [List.getElem?_eq_getElem, hk, hk', hi, hi', Option.bind_some, Option.some.injEq]
    using hsample

/-- Only one frame holds given channels. -/
theorem frame_unique (hlaid : LaidOut count n channels frame) {other : List α}
    (hother : LaidOut count n channels other) : other = frame := by
  apply List.ext_getElem?
  intro j
  by_cases hj : j < count * n
  · have hcount : 0 < count := Nat.pos_of_mul_pos_right (Nat.zero_lt_of_lt hj)
    have hchannel : j % count < count := Nat.mod_lt j hcount
    have htime : j / count < n := Nat.div_lt_of_lt_mul hj
    rw [← Nat.div_add_mod' j count, hother.place _ hchannel _ htime,
      hlaid.place _ hchannel _ htime]
  · have hend : count * n ≤ j := Nat.le_of_not_lt hj
    rw [List.getElem?_eq_none (hother.length_frame ▸ hend),
      List.getElem?_eq_none (hlaid.length_frame ▸ hend)]

end LaidOut

/-- Full channels are merged into the frame that holds them, whatever was in its place. -/
theorem laidOut_interleave {channels : List (List α)} {n : Nat}
    (hfull : ∀ channel ∈ channels, channel.length = n) {old : List α}
    (hold : old.length = channels.length * n) :
    LaidOut channels.length n channels (interleave channels old) := by
  apply (laidOut_split hold).overwrite
  rw [List.map_congr_left hfull, List.map_congr_left fun _ => length_of_mem_split hold,
    List.map_const', List.map_const', length_split]

/-- Deal a frame out to buffers in place: each is cleared, given the samples of its channel, and cut
off or filled up to the number of samples that it should have. -/
def dealOut [Inhabited α] (frame : List α) : EStateM Fault (List (List α)) Unit := do
  let count := (← get).length
  if count = 0 then return
  let samples := frame.length / count
  if frame.length ≠ count * samples then throw .unevenSplit
  forM (List.range count) fun k =>
    modify (·.set k ((Stride.gather count k frame).takeD samples default))

/-- Filling the first buffers, one after the other, leaves nothing in them of what they held, and
the others as they were. -/
theorem run_fill (channel : Nat → List α) {n : Nat} {buffers : List (List α)}
    (hn : n ≤ buffers.length) :
    EStateM.run (ε := Fault) (forM (List.range n) fun k => modify (·.set k (channel k))) buffers =
      .ok () ((List.range n).map channel ++ buffers.drop n) := by
  induction n with
  | zero => rfl
  | succ n ih =>
    have hfilled : ((List.range n).map channel).length = n := by
      rw [List.length_map, List.length_range]
    have hnext : buffers.drop n = buffers[n] :: buffers.drop (n + 1) :=
      List.drop_eq_getElem_cons hn
    have hset : ((List.range n).map channel ++ buffers.drop n).set n (channel n) =
        (List.range n).map channel ++ channel n :: buffers.drop (n + 1) := by
      rw [hnext, List.set_append_right _ _ (Nat.le_of_eq hfilled), hfilled, Nat.sub_self,
        List.set_cons_zero]
    rw [List.range_succ, List.forM_append, EStateM.run_bind, ih (Nat.le_of_succ_le hn),
      List.map_append, List.append_assoc]
    exact congrArg (EStateM.Result.ok ()) hset

/-- Dealing out in place is dealing out, and an abort leaves the buffers as they were. -/
theorem run_dealOut [Inhabited α] (frame : List α) (buffers : List (List α)) :
    (dealOut frame).run buffers =
      match deinterleave frame buffers with
      | .ok channels => .ok () channels
      | .error fault => .error fault buffers := by
  rcases Nat.eq_zero_or_pos buffers.length with hnone | hcount
  · simp [dealOut, deinterleave, List.eq_nil_of_length_eq_zero hnone]
  · have hsome : buffers.length ≠ 0 := Nat.ne_of_gt hcount
    simp only [dealOut, EStateM.run_bind, EStateM.run_get, if_neg hsome]
    by_cases hdivides : buffers.length ∣ frame.length
    · have heven : frame.length = buffers.length * (frame.length / buffers.length) :=
        (Nat.mul_div_cancel' hdivides).symm
      -- Every channel has the right number of samples already: nothing is cut off or filled up.
      have hkeeps : (List.range buffers.length).map (fun k =>
            (Stride.gather buffers.length k frame).takeD (frame.length / buffers.length) default) =
          split buffers.length frame := by
        apply List.map_congr_left
        intro k hk
        have hlength := Stride.length_gather (List.mem_range.mp hk) heven
        have hkeep := List.takeD_left (Stride.gather buffers.length k frame) [] default
        rwa [List.append_nil, hlength] at hkeep
      rw [deinterleave_eq_split hcount hdivides, if_neg (not_not_intro heven)]
      refine (run_fill _ (Nat.le_refl _)).trans ?_
      rw [hkeeps, List.drop_length, List.append_nil]
    · have huneven : frame.length ≠ buffers.length * (frame.length / buffers.length) :=
        fun heven => hdivides ⟨_, heven⟩
      have hrest : frame.length % buffers.length ≠ 0 :=
        fun hzero => hdivides (Nat.dvd_of_mod_eq_zero hzero)
      rw [if_pos huneven]
      simp only [deinterleave, if_neg hsome, if_pos hrest]
      rfl

/-- A frame whose length fits is dealt out, whatever the buffers held. -/
theorem run_dealOut_of_dvd [Inhabited α] {frame : List α} {buffers : List (List α)}
    (hcount : 0 < buffers.length) (hdivides : buffers.length ∣ frame.length) :
    (dealOut frame).run buffers = .ok () (split buffers.length frame) := by
  rw [run_dealOut, deinterleave_eq_split hcount hdivides]

/-- A frame whose length does not fit is dealt out to no buffer at all. -/
theorem run_dealOut_of_not_dvd [Inhabited α] {frame : List α} {buffers : List (List α)}
    (hcount : 0 < buffers.length) (hdivides : ¬buffers.length ∣ frame.length) :
    (dealOut frame).run buffers = .error .unevenSplit buffers := by
  have hrest : frame.length % buffers.length ≠ 0 :=
    fun hzero => hdivides (Nat.dvd_of_mod_eq_zero hzero)
  rw [run_dealOut, deinterleave]
  simp only [if_neg (Nat.ne_of_gt hcount), if_pos hrest]

/-- Frames whose length fits are dealt out and merged again without a change, and so are full
channels the other way round. Any other frame aborts the split before a buffer is touched, and
without buffers there is nothing to be done. -/
theorem splitting_invertsMerging [Inhabited α] :
    (∀ (count : Nat) (frame : List α), 0 < count → count ∣ frame.length →
      ∃ channels, LaidOut count (frame.length / count) channels frame ∧
        (∀ buffers, buffers.length = count → (dealOut frame).run buffers = .ok () channels) ∧
        ∀ old, old.length = frame.length → interleave channels old = frame) ∧
    (∀ (channels : List (List α)) (n : Nat), 0 < channels.length →
      (∀ channel ∈ channels, channel.length = n) →
      ∀ old, old.length = channels.length * n →
      ∀ buffers, buffers.length = channels.length →
        (dealOut (interleave channels old)).run buffers = .ok () channels) ∧
    (∀ (frame : List α) (buffers : List (List α)), 0 < buffers.length →
      ((dealOut frame).run buffers = .error .unevenSplit buffers ↔
        ¬buffers.length ∣ frame.length)) ∧
    (∀ frame : List α, (dealOut frame).run [] = .ok () []) ∧
    ∀ (frame : List α) (buffers : List (List α)),
      (dealOut frame).run buffers =
        match deinterleave frame buffers with
        | .ok channels => .ok () channels
        | .error fault => .error fault buffers := by
  refine ⟨?_, ?_, ?_, ?_, run_dealOut⟩
  · intro count frame hcount hdivides
    have hlaid : LaidOut count (frame.length / count) (split count frame) frame :=
      laidOut_split (Nat.mul_div_cancel' hdivides).symm
    refine ⟨split count frame, hlaid, ?_, ?_⟩
    · rintro buffers rfl
      exact run_dealOut_of_dvd hcount hdivides
    · intro old hold
      have hplaces : old.length = (split count frame).length * (frame.length / count) := by
        rw [length_split, hold, ← hlaid.length_frame]
      have hmerged := laidOut_interleave hlaid.length_channel hplaces
      rw [length_split] at hmerged
      exact hlaid.frame_unique hmerged
  · intro channels n hcount hfull old hold buffers hbuffers
    have hlaid := laidOut_interleave hfull hold
    have hdivides : buffers.length ∣ (interleave channels old).length :=
      ⟨n, by rw [length_interleave, hold, hbuffers]⟩
    rw [run_dealOut_of_dvd (hbuffers ▸ hcount) hdivides, hbuffers, ← hlaid.channels_eq_split]
  · intro frame buffers hcount
    constructor
    · intro haborted hdivides
      rw [run_dealOut_of_dvd hcount hdivides] at haborted
      cases haborted
    · exact run_dealOut_of_not_dvd hcount
  · intro frame
    rw [run_dealOut]
    rfl

/-- Three channels of stale buffers of other lengths take six samples, which can be merged into any
frame of six; three channels of one sample come back through a frame; and seven samples leave the
buffers as they were. -/
theorem splitting_invertsMerging_of_stale :
    let stale : List (List Nat) := [[9, 9, 9, 9], [], [8]]
    (dealOut [1, 2, 3, 4, 5, 6]).run stale = .ok () [[1, 4], [2, 5], [3, 6]] ∧
      interleave [[1, 4], [2, 5], [3, 6]] [7, 7, 7, 7, 7, 7] = [1, 2, 3, 4, 5, 6] ∧
      (dealOut (interleave [[1], [2], [3]] [7, 7, 7])).run stale = .ok () [[1], [2], [3]] ∧
      (dealOut [1, 2, 3, 4, 5, 6, 7]).run stale = .error .unevenSplit stale := by
  intro stale
  obtain ⟨hsplit, hmerge, habort, -⟩ := splitting_invertsMerging (α := Nat)
  obtain ⟨channels, hlaid, hdealt, hmerged⟩ := hsplit 3 [1, 2, 3, 4, 5, 6] (by decide) ⟨2, rfl⟩
  obtain rfl : channels = [[1, 4], [2, 5], [3, 6]] := hlaid.channels_eq_split.trans (by decide)
  refine ⟨hdealt stale rfl, hmerged _ rfl, ?_, ?_⟩
  · exact hmerge [[1], [2], [3]] 1 (by decide) (by decide) _ rfl stale rfl
  · exact (habort [1, 2, 3, 4, 5, 6, 7] stale (by decide)).mpr (by decide)

end VoiceProcessing
