import WorkWatch.Net.Url
import WorkWatch.Proofs.Text.Split

/-! Paths of URLs. Percent signs are written once, and a segment that is no dot stays behind the
path that it is put under. -/

namespace WorkWatch.Net

open WorkWatch.Text

theorem escaped_cons (plain : Char → Bool) (c : Char) (s : List Char) :
    escaped plain (c :: s) = (if plain c then [c] else percent c) ++ escaped plain s := rfl

theorem escaped_append (plain : Char → Bool) (s t : List Char) :
    escaped plain (s ++ t) = escaped plain s ++ escaped plain t := List.flatMap_append

theorem escaped_eq_self {plain : Char → Bool} {s : List Char} (h : ∀ c ∈ s, plain c = true) :
    escaped plain s = s := by
  induction s with
  | nil => rfl
  | cons c s ih =>
    rw [escaped_cons, if_pos (h c List.mem_cons_self),
      ih fun d hd => h d (List.mem_cons_of_mem c hd)]
    rfl

/-- What holds of the characters of ASCII one by one. -/
theorem of_ascii {P : Char → Prop} (h : ∀ n < 128, P (Char.ofNat n)) {c : Char}
    (hc : c.toNat < 128) : P c := by
  have hchar := h c.toNat hc
  rwa [Char.ofNat_toNat] at hchar

theorem isPathChar_of_hexValue {c : Char} (h : (hexValue? c).isSome = true) :
    isPathChar c = true := by
  have hascii : c.toNat < 128 := by
    unfold hexValue? isDigit at h
    simp only [Bool.and_eq_true, decide_eq_true_eq, Char.le_def, UInt32.le_iff_toNat_le] at h
    change c.val.toNat < 128
    split at h
    · rename_i hdigit
      exact Nat.lt_of_le_of_lt hdigit.2 (by decide)
    · split at h
      · rename_i hlower
        exact Nat.lt_of_le_of_lt hlower.2 (by decide)
      · split at h
        · rename_i hupper
          exact Nat.lt_of_le_of_lt hupper.2 (by decide)
        · cases h
  exact of_ascii (P := fun c => (hexValue? c).isSome = true → isPathChar c = true) (by decide)
    hascii h

/-- A percent sign may stand in a path, and so may the digits behind it; so it makes no difference
whether it is taken as part of an escape. -/
theorem quote_eq_escaped (s : List Char) : quote isPathChar s = escaped isPathChar s := by
  fun_induction quote isPathChar s with
  | case1 a b rest hhex ih =>
    rw [Bool.and_eq_true] at hhex
    have hpercent : isPathChar '%' = true := by decide
    simp only [escaped_cons, hpercent, isPathChar_of_hexValue hhex.1, isPathChar_of_hexValue hhex.2,
      ih]
    rfl
  | case2 a b rest hhex ih => rw [ih, escaped_cons isPathChar '%']
  | case3 c rest hmore ih => rw [ih, escaped_cons]
  | case4 => rfl

theorem mem_toDigits {n : Nat} {d : Char} (h : d ∈ Nat.toDigits 16 n) :
    ∃ value < 16, d = Nat.digitChar value := by
  induction n using Nat.strongRecOn with
  | ind n ih =>
    by_cases hsmall : n < 16
    · rw [Nat.toDigits_of_lt_base hsmall] at h
      exact ⟨n, hsmall, List.mem_singleton.mp h⟩
    · rw [Nat.toDigits_of_base_le (by decide) (Nat.le_of_not_lt hsmall), List.mem_append] at h
      rcases h with hfront | hlast
      · exact ih _ (Nat.div_lt_self (by omega) (by decide)) hfront
      · exact ⟨n % 16, Nat.mod_lt n (by decide), List.mem_singleton.mp hlast⟩

theorem mem_hexPadded {width n : Nat} {d : Char} (h : d ∈ hexPadded width n) :
    ∃ value < 16, d = Nat.digitChar value := by
  unfold hexPadded at h
  rcases List.mem_append.mp h with hzero | hdigit
  · exact ⟨0, by decide, List.eq_of_mem_replicate hzero⟩
  · exact mem_toDigits hdigit

theorem mem_percent {c d : Char} (h : d ∈ percent c) : isPathChar d = true ∧ d ≠ '/' := by
  have hdigits : ∀ value < 16, isPathChar (Nat.digitChar value).toUpper = true ∧
      (Nat.digitChar value).toUpper ≠ '/' := by decide
  obtain ⟨byte, -, hd⟩ := List.mem_flatMap.mp h
  rcases List.mem_cons.mp hd with rfl | hd
  · decide
  · obtain ⟨digit, hdigit, rfl⟩ := List.mem_map.mp hd
    obtain ⟨value, hvalue, rfl⟩ := mem_hexPadded hdigit
    exact hdigits value hvalue

theorem percent_mem_percent (c : Char) : '%' ∈ percent c := by
  cases hbytes : String.utf8EncodeChar c with
  | nil =>
    have hlength := congrArg List.length hbytes
    rw [String.length_utf8EncodeChar] at hlength
    exact absurd hlength (Nat.pos_iff_ne_zero.mp c.utf8Size_pos)
  | cons byte bytes =>
    unfold percent
    rw [hbytes]
    exact List.mem_cons_self

theorem isPathChar_of_mem_escaped {s : List Char} {c : Char} (h : c ∈ escaped isPathChar s) :
    isPathChar c = true := by
  obtain ⟨d, -, hc⟩ := List.mem_flatMap.mp h
  split at hc
  · rename_i hplain
    rw [List.mem_singleton.mp hc]
    exact hplain
  · exact (mem_percent hc).1

theorem escaped_escaped (s : List Char) :
    escaped isPathChar (escaped isPathChar s) = escaped isPathChar s :=
  escaped_eq_self fun _ => isPathChar_of_mem_escaped

theorem slash_mem_escaped_iff {s : List Char} : '/' ∈ escaped isPathChar s ↔ '/' ∈ s := by
  constructor
  · intro h
    obtain ⟨c, hmem, hc⟩ := List.mem_flatMap.mp h
    split at hc
    · rw [List.mem_singleton.mp hc]
      exact hmem
    · exact absurd rfl (mem_percent hc).2
  · intro h
    exact List.mem_flatMap.mpr ⟨'/', h, List.mem_singleton.mpr rfl⟩

/-- What is written without percent signs is written as it is. -/
theorem escaped_eq_of_not_mem {plain : Char → Bool} {s : List Char}
    (h : '%' ∉ escaped plain s) : escaped plain s = s := by
  apply escaped_eq_self
  intro c hc
  by_contra hplain
  apply h
  apply List.mem_flatMap.mpr
  refine ⟨c, hc, ?_⟩
  rw [if_neg hplain]
  exact percent_mem_percent c

theorem escaped_eq_nil_iff {plain : Char → Bool} {s : List Char} :
    escaped plain s = [] ↔ s = [] := by
  constructor
  · intro h
    rw [← h]
    exact (escaped_eq_of_not_mem (h ▸ List.not_mem_nil)).symm
  · rintro rfl
    rfl

/-! Segments. -/

/-- The segments that are kept of a path when one more is read. -/
def resolve (kept : List (List Char)) (segment : List Char) : List (List Char) :=
  if segment = ['.'] then kept
  else if segment = ['.', '.'] then (if kept = [[]] then kept else kept.dropLast)
  else kept ++ [segment]

/-- The segments of a path once those that are dots are resolved. -/
def resolved (path : List Char) : List (List Char) := (pieces '/' path).foldl resolve []

theorem foldl_resolve {segments : List (List Char)}
    (h : ∀ segment ∈ segments, segment ≠ ['.'] ∧ segment ≠ ['.', '.']) :
    ∀ kept, segments.foldl resolve kept = kept ++ segments := by
  induction segments with
  | nil => exact fun kept => (List.append_nil kept).symm
  | cons segment segments ih =>
    intro kept
    obtain ⟨hdot, hdots⟩ := h segment List.mem_cons_self
    rw [List.foldl_cons, ih fun other hmem => h other (List.mem_cons_of_mem segment hmem)]
    unfold resolve
    rw [if_neg hdot, if_neg hdots, List.append_assoc]
    rfl

theorem withoutDots_eq (path : List Char) : withoutDots path = joined ['/'] (resolved path) := by
  unfold withoutDots
  dsimp only
  split
  · rfl
  · rename_i hnone
    rw [Bool.or_eq_true, not_or, List.contains_iff_mem, List.contains_iff_mem] at hnone
    have hsegments : resolved path = [] ++ pieces '/' path := by
      apply foldl_resolve
      intro segment hmem
      constructor
      · rintro rfl
        exact hnone.1 hmem
      · rintro rfl
        exact hnone.2 hmem
    rw [hsegments, List.nil_append, joined_pieces]

theorem resolved_concat (path : List Char) {segment : List Char} (h : '/' ∉ segment) :
    resolved (path ++ '/' :: segment) = resolve (resolved path) segment := by
  unfold resolved
  rw [pieces_concat, pieces_of_not_mem h, List.foldl_append]
  rfl

theorem resolved_segment (path : List Char) {segment : List Char} (h : '/' ∉ segment)
    (hdot : segment ≠ ['.']) (hdots : segment ≠ ['.', '.']) :
    resolved (path ++ '/' :: segment) = resolved path ++ [segment] := by
  rw [resolved_concat path h]
  unfold resolve
  rw [if_neg hdot, if_neg hdots]

/-- A segment that is no dot stays behind a path of which something is kept. -/
theorem withoutDots_segment {path segment : List Char} (hpath : resolved path ≠ [])
    (h : '/' ∉ segment) (hdot : segment ≠ ['.']) (hdots : segment ≠ ['.', '.']) :
    withoutDots (path ++ '/' :: segment) = withoutDots path ++ '/' :: segment := by
  rw [withoutDots_eq, withoutDots_eq, resolved_segment path h hdot hdots, joined_concat hpath,
    List.append_assoc]
  rfl

/-- A segment of dots leaves a part of the path that it is put behind. -/
theorem withoutDots_dots (path : List Char) {segment : List Char}
    (h : segment = ['.'] ∨ segment = ['.', '.']) :
    withoutDots (path ++ '/' :: segment) <+: withoutDots path := by
  have hslash : '/' ∉ segment := by
    rcases h with rfl | rfl <;> decide
  rw [withoutDots_eq, withoutDots_eq, resolved_concat path hslash]
  rcases h with rfl | rfl
  · exact List.prefix_refl _
  · change joined ['/'] (if resolved path = [[]] then resolved path else (resolved path).dropLast) <+:
      joined ['/'] (resolved path)
    split
    · exact List.prefix_refl _
    · exact joined_dropLast_prefix ['/'] (resolved path)

end WorkWatch.Net
