import VoiceProcessing.Bypass.Power
import VoiceProcessing.Frame
import VoiceProcessing.Proofs.Layout
import VoiceProcessing.Proofs.Rounding

/-!
# What a power tells of its samples

The power of a frame is a sum of squares in double precision, which has so much more room than the
samples that no frame is loud enough for the sum to overflow. So the power is finite exactly if all
samples are. It is not a number exactly if some sample is not, and otherwise infinite: squares are
not negative, so that infinities never cancel.
-/

namespace VoiceProcessing

open Binary

namespace Power

/-- No sample, read in double precision, has more units than two to the power of this. -/
def sampleExponent : Nat := 1202

/-- No square of a sample has more units than two to the power of this. -/
def squareExponent : Nat := 1330

/-- The exponent is low enough for bounds. -/
theorem short_square {digits : Nat} (hdigits : digits ≤ 2 ^ 52) :
    Short .double digits squareExponent :=
  ⟨hdigits, by decide⟩

/-- Products of powers of two are compared by their exponents. -/
theorem two_pow_mul_le {a b c d : Nat} (hle : a + b ≤ c + d) : 2 ^ a * 2 ^ b ≤ 2 ^ c * 2 ^ d := by
  rw [← Nat.pow_add, ← Nat.pow_add]
  exact Nat.pow_le_pow_right Nat.two_pos hle

/-- So are products of three with products of two. -/
theorem two_pow_mul_mul_le {a b c d e : Nat} (hle : a + b + c ≤ d + e) :
    2 ^ a * 2 ^ b * 2 ^ c ≤ 2 ^ d * 2 ^ e := by
  rw [← Nat.pow_add]
  exact two_pow_mul_le hle

/-- A power gauges samples if it is of their kind: finite, not negative and bounded by so many
squares if all of them are finite, infinite if one of them is and all are numbers, and otherwise not
a number. -/
inductive Gauges (samples : List Binary32) (squares : Nat) : Binary64 → Prop
  | finite {power : Binary64} (hfinite : ∀ sample ∈ samples, sample.isFinite = true)
      (hsign : power.negative = false) (hwithin : Within (squares * 2 ^ squareExponent) power) :
      Gauges samples squares power
  | infinite (hinfinite : ∃ sample ∈ samples, sample.isInfinite = true)
      (hnumbers : ∀ sample ∈ samples, sample.isNaN = false) :
      Gauges samples squares (infinity false)
  | nan (hnan : ∃ sample ∈ samples, sample.isNaN = true) : Gauges samples squares nan

namespace Gauges

variable {samples others : List Binary32} {squares more : Nat} {power other : Binary64}

/-- A power is not a number exactly if some sample is not. -/
theorem isNaN_iff (hpower : Gauges samples squares power) :
    power.isNaN = true ↔ ∃ sample ∈ samples, sample.isNaN = true := by
  cases hpower with
  | finite hfinite hsign hwithin =>
    rw [isNaN_of_isFinite hwithin.isFinite]
    constructor
    · exact Bool.noConfusion
    · rintro ⟨sample, hmem, hnan⟩
      exact absurd (hnan.symm.trans (isNaN_of_isFinite (hfinite sample hmem))) Bool.noConfusion
  | infinite hinfinite hnumbers =>
    rw [isNaN_infinity]
    constructor
    · exact Bool.noConfusion
    · rintro ⟨sample, hmem, hnan⟩
      exact absurd (hnan.symm.trans (hnumbers sample hmem)) Bool.noConfusion
  | nan hnan => exact iff_of_true isNaN_nan hnan

/-- A power is infinite exactly if some sample is and all are numbers. -/
theorem isInfinite_iff (hpower : Gauges samples squares power) :
    power.isInfinite = true ↔
      (∃ sample ∈ samples, sample.isInfinite = true) ∧
        ∀ sample ∈ samples, sample.isNaN = false := by
  cases hpower with
  | finite hfinite hsign hwithin =>
    rw [isInfinite_of_isFinite hwithin.isFinite]
    constructor
    · exact Bool.noConfusion
    · rintro ⟨⟨sample, hmem, hinfinite⟩, -⟩
      have hnone := isInfinite_of_isFinite (hfinite sample hmem)
      exact absurd (hinfinite.symm.trans hnone) Bool.noConfusion
  | infinite hinfinite hnumbers =>
    exact iff_of_true (isInfinite_infinity false) ⟨hinfinite, hnumbers⟩
  | nan hnan =>
    obtain ⟨sample, hmem, hnan⟩ := hnan
    constructor
    · exact fun hnone => absurd hnone (by decide)
    · exact fun hnumbers => absurd (hnan.symm.trans (hnumbers.2 sample hmem)) Bool.noConfusion

/-- An infinite power is positive. -/
theorem eq_infinity (hpower : Gauges samples squares power) (hinfinite : power.isInfinite = true) :
    power = infinity false := by
  cases hpower with
  | finite hfinite hsign hwithin =>
    rw [isInfinite_of_isFinite hwithin.isFinite] at hinfinite
    cases hinfinite
  | infinite _ _ => rfl
  | nan _ => exact absurd hinfinite (by decide)

/-- Only the values among the samples matter, and a bound may be relaxed. -/
theorem congr (hpower : Gauges samples squares power)
    (hsame : ∀ sample, sample ∈ samples ↔ sample ∈ others) (hle : squares ≤ more) :
    Gauges others more power := by
  cases hpower with
  | finite hfinite hsign hwithin =>
    exact .finite (fun sample hmem => hfinite sample ((hsame sample).mpr hmem)) hsign
      (hwithin.mono (Nat.mul_le_mul_right _ hle))
  | infinite hinfinite hnumbers =>
    obtain ⟨sample, hmem, hinfinite⟩ := hinfinite
    exact .infinite ⟨sample, (hsame sample).mp hmem, hinfinite⟩
      fun sample hmem => hnumbers sample ((hsame sample).mpr hmem)
  | nan hnan =>
    obtain ⟨sample, hmem, hnan⟩ := hnan
    exact .nan ⟨sample, (hsame sample).mp hmem, hnan⟩

/-- The sum of two powers gauges the samples of both. -/
theorem add (hpower : Gauges samples squares power) (hother : Gauges others more other)
    (hle : squares + more ≤ 2 ^ 52) :
    Gauges (samples ++ others) (squares + more) (power + other) := by
  cases hpower with
  | nan hnan =>
    obtain ⟨sample, hmem, hnan⟩ := hnan
    rw [nan_add]
    exact .nan ⟨sample, List.mem_append_left _ hmem, hnan⟩
  | infinite hinfinite hnumbers =>
    obtain ⟨sample, hmem, hinfinite⟩ := hinfinite
    have hsome : ∃ sample ∈ samples ++ others, sample.isInfinite = true :=
      ⟨sample, List.mem_append_left _ hmem, hinfinite⟩
    cases hother with
    | nan hnan =>
      obtain ⟨sample, hmem, hnan⟩ := hnan
      rw [add_nan]
      exact .nan ⟨sample, List.mem_append_right _ hmem, hnan⟩
    | infinite _ hothers =>
      rw [infinity_add_infinity]
      exact .infinite hsome (List.forall_mem_append.mpr ⟨hnumbers, hothers⟩)
    | finite hfinite _ hwithin =>
      rw [infinity_add false hwithin.isFinite]
      exact .infinite hsome (List.forall_mem_append.mpr
        ⟨hnumbers, fun sample hmem => isNaN_of_isFinite (hfinite sample hmem)⟩)
  | finite hfinite hsign hwithin =>
    cases hother with
    | nan hnan =>
      obtain ⟨sample, hmem, hnan⟩ := hnan
      rw [add_nan]
      exact .nan ⟨sample, List.mem_append_right _ hmem, hnan⟩
    | infinite hinfinite hothers =>
      obtain ⟨sample, hmem, hinfinite⟩ := hinfinite
      rw [add_infinity false hwithin.isFinite]
      exact .infinite ⟨sample, List.mem_append_right _ hmem, hinfinite⟩
        (List.forall_mem_append.mpr
          ⟨fun sample hmem => isNaN_of_isFinite (hfinite sample hmem), hothers⟩)
    | finite hfinite' hsign' hwithin' =>
      refine .finite (List.forall_mem_append.mpr ⟨hfinite, hfinite'⟩) ?_ ?_
      · exact negative_add hwithin.isFinite hwithin'.isFinite hsign hsign'
      · exact hwithin.add hwithin' (short_square hle) (Nat.le_of_eq (Nat.add_mul _ _ _).symm)

/-- Averaging over a count keeps the kind, and the bound. -/
theorem div_count (hpower : Gauges samples squares power) (hsquares : squares ≤ 2 ^ 52) {n : Nat}
    (hpos : 0 < n) (hn : n ≤ 2 ^ 52) : Gauges samples squares (power / ofInt n) := by
  have hcount : Within (n * Format.unity .double) (ofInt n : Binary64) :=
    within_ofInt (Nat.le_refl n) hn
  have hsome : 0 < (ofInt n : Binary64).units := units_ofInt_pos hn hpos
  cases hpower with
  | nan hnan =>
    rw [nan_div]
    exact .nan hnan
  | infinite hinfinite hnumbers =>
    rw [infinity_div false hcount.isFinite, negative_ofInt]
    exact .infinite hinfinite hnumbers
  | finite hfinite hsign hwithin =>
    refine .finite hfinite ?_ ?_
    · rw [div_eq_round hwithin.isFinite hcount.isFinite hsome, hsign, negative_ofInt]
      rfl
    · exact hwithin.div hcount.isFinite hsome (unity_le_units_ofInt hn hpos)
        (short_square hsquares) (Nat.le_of_eq (Nat.mul_comm _ _))

/-- Multiplying by a count keeps the kind. -/
theorem mul_count (hpower : Gauges samples squares power) {n : Nat} (hpos : 0 < n)
    (hn : n ≤ 2 ^ 52) (hsquares : squares * n ≤ 2 ^ 52) :
    Gauges samples (squares * n) (power * ofInt n) := by
  have hcount : Within (n * Format.unity .double) (ofInt n : Binary64) :=
    within_ofInt (Nat.le_refl n) hn
  cases hpower with
  | nan hnan =>
    rw [nan_mul]
    exact .nan hnan
  | infinite hinfinite hnumbers =>
    rw [infinity_mul false hcount.isFinite (units_ofInt_pos hn hpos), negative_ofInt]
    exact .infinite hinfinite hnumbers
  | finite hfinite hsign hwithin =>
    refine .finite hfinite ?_ ?_
    · rw [mul_eq_round hwithin.isFinite hcount.isFinite, hsign, negative_ofInt]
      rfl
    · refine hwithin.mul hcount (short_square hsquares) (Nat.le_of_eq ?_)
      rw [Nat.mul_comm _ (n * Format.unity .double), Nat.mul_comm n, Nat.mul_assoc,
        Nat.mul_left_comm n, ← Nat.mul_assoc squares]

end Gauges

/-- The square of a sample gauges it. -/
theorem gauges_squared (sample : Binary32) : Gauges [sample] 1 (squared sample) := by
  rcases sample.isFinite_or with hfinite | hinfinite | hnan
  · have hsample : Within (2 ^ Format.span .single) sample :=
      ⟨hfinite, Nat.le_of_lt (Format.units_lt (of_decide_eq_true hfinite))⟩
    have hdouble : Within (1 * 2 ^ sampleExponent) (sample.convert .double) := by
      refine hsample.convert ⟨by decide, by decide⟩ ?_
      rw [Nat.one_mul, Format.unity_eq, Format.unity_eq]
      exact two_pow_mul_le (by decide)
    refine .finite (List.forall_mem_singleton.mpr hfinite) ?_ ?_
    · rw [squared, mul_eq_round hdouble.isFinite hdouble.isFinite]
      exact bne_self_eq_false _
    · refine hdouble.mul hdouble (short_square (by decide)) ?_
      rw [Nat.one_mul, Nat.one_mul, Format.unity_eq]
      exact two_pow_mul_le (by decide)
  · have hsquare : squared sample = infinity false := by
      rw [eq_infinity hinfinite]
      cases sample.negative <;> decide
    rw [hsquare]
    exact .infinite ⟨sample, List.mem_singleton_self sample, hinfinite⟩
      (List.forall_mem_singleton.mpr (isNaN_of_isInfinite hinfinite))
  · have hsquare : squared sample = nan := by
      rw [squared, Binary.convert, if_pos hnan, nan_mul]
    rw [hsquare]
    exact .nan ⟨sample, List.mem_singleton_self sample, hnan⟩

/-- Without samples there is no power. -/
theorem gauges_zero : Gauges [] 0 0 := by
  refine .finite (List.forall_mem_nil _) rfl ?_
  have hzero : Within (0 * Format.unity .double) (ofInt (0 : Nat) : Binary64) :=
    within_ofInt (Nat.le_refl 0) (Nat.zero_le _)
  rw [Nat.zero_mul] at hzero ⊢
  exact hzero

/-- Adding powers to one of what came before gauges all the samples. -/
theorem gauges_foldl {β : Type} {parts : List β} {samples : β → List Binary32}
    {term : β → Binary64} {squares : Nat}
    (hterms : ∀ part ∈ parts, Gauges (samples part) squares (term part))
    {before : List Binary32} {added : Nat} {power : Binary64} (hbefore : Gauges before added power)
    (hle : added + parts.length * squares ≤ 2 ^ 52) :
    Gauges (before ++ parts.flatMap samples) (added + parts.length * squares)
      ((parts.map term).foldl (· + ·) power) := by
  induction parts generalizing before added power with
  | nil =>
    rw [List.flatMap_nil, List.append_nil, List.length_nil, Nat.zero_mul, Nat.add_zero]
    exact hbefore
  | cons part parts ih =>
    obtain ⟨hfirst, hlater⟩ := List.forall_mem_cons.mp hterms
    rw [List.length_cons, Nat.succ_mul, Nat.add_comm _ squares, ← Nat.add_assoc] at hle ⊢
    rw [List.flatMap_cons, ← List.append_assoc]
    exact ih hlater (hbefore.add hfirst (Nat.le_trans (Nat.le_add_right _ _) hle)) hle

/-- Adding up powers, from left to right, gauges all their samples. -/
theorem gauges_sum {β : Type} {parts : List β} (samples : β → List Binary32)
    {term : β → Binary64} {squares : Nat}
    (hterms : ∀ part ∈ parts, Gauges (samples part) squares (term part))
    (hle : parts.length * squares ≤ 2 ^ 52) :
    Gauges (parts.flatMap samples) (parts.length * squares) (sum (parts.map term)) := by
  have hsum := gauges_foldl hterms gauges_zero (by rwa [Nat.zero_add])
  rwa [List.nil_append, Nat.zero_add] at hsum

/-- The mean power of a signal gauges it. -/
theorem gauges_ofSamples (samples : List Binary32) (hlength : samples.length ≤ 2 ^ 52) :
    Gauges samples samples.length (ofSamples samples) := by
  rcases Nat.eq_zero_or_pos samples.length with hnone | hsome
  · obtain rfl := List.eq_nil_of_length_eq_zero hnone
    exact gauges_zero
  · have hsum := gauges_sum (fun sample => [sample])
      (fun sample (_ : sample ∈ samples) => gauges_squared sample) (by rwa [Nat.mul_one])
    rw [Nat.mul_one, List.flatMap_singleton'] at hsum
    rw [ofSamples, if_neg (Nat.ne_of_gt hsome)]
    exact hsum.div_count hlength hsome hlength

/-- The mean power of channels of one length gauges all their samples. -/
theorem gauges_ofChannels (channels : List (List Binary32)) {n : Nat} (hn : 0 < n)
    (hfull : ∀ channel ∈ channels, channel.length = n)
    (hbound : channels.length * (n * n) ≤ 2 ^ 52) :
    Gauges channels.flatten (channels.length * (n * n)) (ofChannels channels) := by
  have hlength : channels.flatten.length = channels.length * n := by
    rw [List.length_flatten, List.map_congr_left hfull, List.map_const', List.sum_replicate_nat]
  have hcount : channels.flatten.length ≤ 2 ^ 52 := by
    rw [hlength]
    exact Nat.le_trans (Nat.mul_le_mul_left _ (Nat.le_mul_of_pos_right n hn)) hbound
  rcases Nat.eq_zero_or_pos channels.flatten.length with hnone | hsome
  · have hempty : channels = [] := by
      rw [hlength, Nat.mul_eq_zero] at hnone
      exact List.eq_nil_of_length_eq_zero (hnone.resolve_right (Nat.ne_of_gt hn))
    subst hempty
    rw [List.length_nil, Nat.zero_mul]
    exact gauges_zero
  · have hone : 1 ≤ channels.length := by
      rw [hlength] at hsome
      exact Nat.pos_of_mul_pos_right hsome
    have hsquares : n * n ≤ 2 ^ 52 := Nat.le_trans (Nat.le_mul_of_pos_left _ hone) hbound
    have hshort : n ≤ 2 ^ 52 := Nat.le_trans (Nat.le_mul_of_pos_right n hn) hsquares
    have hterms : ∀ channel ∈ channels,
        Gauges channel (n * n) (ofSamples channel * ofInt channel.length) := by
      intro channel hmem
      have hchannel := gauges_ofSamples channel (by rwa [hfull channel hmem])
      rw [hfull channel hmem] at hchannel ⊢
      exact hchannel.mul_count hn hshort hsquares
    have hsum := gauges_sum id hterms hbound
    rw [List.flatMap_id] at hsum
    have hmean := hsum.div_count hbound hsome hcount
    rw [ofChannels, if_neg (Nat.ne_of_gt hsome)]
    exact hmean

end Power

/-- A 16-bit sample stands for a finite number. -/
theorem Pcm.isFinite_decode (sample : Int16) : (decode sample).isFinite = true := by
  have hlow := sample.le_toInt
  have hhigh := sample.toInt_lt
  have hsample : Within (32768 * Format.unity .single) (ofInt sample.toInt : Binary32) :=
    within_ofInt (by omega) (by decide)
  have hscale : Within (32768 * Format.unity .single) (ofInt (32768 : Nat) : Binary32) :=
    within_ofInt (Nat.le_refl _) (by decide)
  exact (hsample.div hscale.isFinite (units_ofInt_pos (by decide) (by decide))
    (unity_le_units_ofInt (by decide) (by decide)) (short_unity (by decide))
    (Nat.le_of_eq (Nat.mul_comm _ _))).isFinite

/-- The channels of a frame have its samples and no others. -/
theorem mem_flatten_split {α : Type} {count : Nat} (hcount : 0 < count) (frame : List α)
    (sample : α) : sample ∈ (split count frame).flatten ↔ sample ∈ frame := by
  rw [List.mem_flatten]
  constructor
  · rintro ⟨channel, hchannel, hsample⟩
    obtain ⟨k, -, rfl⟩ := List.mem_map.mp hchannel
    obtain ⟨i, hi⟩ := List.mem_iff_getElem?.mp hsample
    rw [Stride.getElem?_gather hcount] at hi
    exact List.mem_of_getElem? hi
  · intro hsample
    obtain ⟨j, hj⟩ := List.mem_iff_getElem?.mp hsample
    have hk : j % count < count := Nat.mod_lt j hcount
    have hplace := getElem?_getElem?_split hk frame (j / count)
    rw [Nat.div_add_mod', hj, getElem?_split hk, Option.bind_some] at hplace
    exact ⟨_, List.mem_of_getElem? (getElem?_split hk frame), List.mem_of_getElem? hplace⟩

namespace Power

/-- No frame of a stream has a power of more than so many squares, however many channels there
are. -/
def frameSquares : Nat := 2 ^ 34

/-- The power of an interleaved frame gauges its samples. -/
theorem gauges_ofFrame {format : StreamFormat} {frame : List Binary32}
    (hlength : frame.length = format.frameSamples) :
    Gauges frame frameSquares (ofChannels (split format.channelCount frame)) := by
  have hcount := format.channelCount_lt
  have hbound : format.channelCount * (480 * 480) ≤ frameSquares := by
    unfold frameSquares
    omega
  have hfull : ∀ channel ∈ split format.channelCount frame, channel.length = 480 :=
    fun _ => length_of_mem_split hlength
  have hpower := gauges_ofChannels _ (by decide) hfull (by rw [length_split]; omega)
  rw [length_split] at hpower
  exact hpower.congr (mem_flatten_split format.channelCount_pos frame) hbound

/-- The power of a 16-bit frame gauges what its samples stand for. -/
theorem gauges_ofPcm {format : StreamFormat} {frame : List Int16}
    (hlength : frame.length = format.frameSamples) :
    Gauges (frame.map Pcm.decode) frameSquares (ofPcm frame) := by
  have hcount := format.channelCount_lt
  have hsamples : (frame.map Pcm.decode).length = format.channelCount * 480 := by
    rw [List.length_map, hlength]
    rfl
  have hpower := gauges_ofSamples (frame.map Pcm.decode) (by omega)
  refine hpower.congr (fun _ => Iff.rfl) ?_
  unfold frameSquares
  omega

end Power

end VoiceProcessing
