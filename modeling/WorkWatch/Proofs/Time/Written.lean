import Mathlib.Data.List.TakeWhile
import WorkWatch.Proofs.Text.Digits
import WorkWatch.Proofs.Time.Calendar
import WorkWatch.Time.Rfc3339

/-! Timestamps as they are written. A text is read as a timestamp exactly when it is, between blanks,
the text of fields that make a time of an existing day, with an offset of less than a day from UTC.
The minutes of an offset may exceed 59, which no strict timestamp allows. -/

namespace WorkWatch.Time

open WorkWatch.Text

/-- How a time zone is written: `Z`, or hours and minutes ahead of UTC or behind it. -/
inductive Zone where
  | utc
  | offset (behind : Bool) (hours minutes : Nat)
  deriving DecidableEq

namespace Zone

def text : Zone → List Char
  | utc => ['Z']
  | offset behind hours minutes =>
    (if behind then '-' else '+') :: (padded 2 hours ++ ':' :: padded 2 minutes)

def minutesEast : Zone → Int
  | utc => 0
  | offset behind hours minutes =>
    if behind then -(hours * 60 + minutes : Nat) else (hours * 60 + minutes : Nat)

def IsStrict : Zone → Prop
  | utc => True
  | offset _ hours minutes => hours ≤ 23 ∧ minutes ≤ 59

instance : ∀ z : Zone, Decidable z.IsStrict
  | utc => .isTrue trivial
  | offset _ hours minutes => inferInstanceAs (Decidable (hours ≤ 23 ∧ minutes ≤ 59))

/-- The minutes make more than an hour, and together with the hours less than a day. -/
def IsLong : Zone → Prop
  | utc => False
  | offset _ hours minutes => 60 ≤ minutes ∧ minutes ≤ 99 ∧ hours * 60 + minutes < 24 * 60

instance : ∀ z : Zone, Decidable z.IsLong
  | utc => .isFalse id
  | offset _ hours minutes =>
    inferInstanceAs (Decidable (60 ≤ minutes ∧ minutes ≤ 99 ∧ hours * 60 + minutes < 24 * 60))

end Zone

/-- The fields of a timestamp; the fraction of a second is a row of digits, and left out when that is
empty. -/
structure Written where
  year : Nat
  month : Nat
  day : Nat
  hour : Nat
  minute : Nat
  second : Nat
  fraction : List Char
  zone : Zone
  deriving DecidableEq

def fractionText (digits : List Char) : List Char := if digits = [] then [] else '.' :: digits

namespace Written

def text (w : Written) : List Char :=
  padded 4 w.year ++ '-' :: (padded 2 w.month ++ '-' :: (padded 2 w.day ++ 'T' ::
    (padded 2 w.hour ++ ':' :: (padded 2 w.minute ++ ':' :: (padded 2 w.second ++
      (fractionText w.fraction ++ w.zone.text))))))

/-- The fields but for the zone make a time of an existing day. -/
structure IsTime (w : Written) : Prop where
  date : IsDay w.year w.month w.day
  hour : w.hour ≤ 23
  minute : w.minute ≤ 59
  second : w.second ≤ 59
  fraction : ∀ c ∈ w.fraction, isDigit c = true

instance (w : Written) : Decidable w.IsTime :=
  decidable_of_iff (IsDay w.year w.month w.day ∧ w.hour ≤ 23 ∧ w.minute ≤ 59 ∧ w.second ≤ 59 ∧
      w.fraction.all isDigit = true)
    ⟨fun ⟨date, hour, minute, second, fraction⟩ =>
        ⟨date, hour, minute, second, List.all_eq_true.mp fraction⟩,
      fun ⟨date, hour, minute, second, fraction⟩ =>
        ⟨date, hour, minute, second, List.all_eq_true.mpr fraction⟩⟩

theorem IsTime.fits {w : Written} (h : w.IsTime) :
    w.year < 10 ^ 4 ∧ w.month < 10 ^ 2 ∧ w.day < 10 ^ 2 ∧ w.hour < 10 ^ 2 ∧ w.minute < 10 ^ 2 ∧
      w.second < 10 ^ 2 := by
  have hyear := h.date.1.2
  have hmonth := h.date.2.1.2
  have hday := h.date.day_le
  have hhour := h.hour
  have hminute := h.minute
  have hsecond := h.second
  omega

def timestamp (w : Written) : Timestamp where
  year := w.year
  month := w.month
  day := w.day
  hour := w.hour
  minute := w.minute
  second := w.second
  microsecond := microseconds w.fraction
  offset := w.zone.minutesEast

end Written

/-! Fields of digits. -/

theorem two?_eq_some_iff {a b : Char} {n : Nat} :
    two? a b = some n ↔ n < 10 ^ 2 ∧ [a, b] = padded 2 n := by
  refine Iff.trans ?_ (eq_padded_iff (List.cons_ne_nil a [b]))
  simp [two?, and_assoc]

theorem four?_eq_some_iff {a b c d : Char} {n : Nat} :
    four? a b c d = some n ↔ n < 10 ^ 4 ∧ [a, b, c, d] = padded 4 n := by
  refine Iff.trans ?_ (eq_padded_iff (List.cons_ne_nil a [b, c, d]))
  simp [four?, and_assoc]

theorem exists_padded_two {n : Nat} (h : n < 10 ^ 2) :
    ∃ a b, padded 2 n = [a, b] ∧ two? a b = some n := by
  match hpadded : padded 2 n, length_padded (by decide) h with
  | [a, b], _ => exact ⟨a, b, rfl, two?_eq_some_iff.mpr ⟨h, hpadded.symm⟩⟩

theorem exists_padded_four {n : Nat} (h : n < 10 ^ 4) :
    ∃ a b c d, padded 4 n = [a, b, c, d] ∧ four? a b c d = some n := by
  match hpadded : padded 4 n, length_padded (by decide) h with
  | [a, b, c, d], _ => exact ⟨a, b, c, d, rfl, four?_eq_some_iff.mpr ⟨h, hpadded.symm⟩⟩

/-! The zone. -/

theorem Zone.readable_iff {behind : Bool} {hours minutes : Nat} :
    ((Zone.offset behind hours minutes).IsStrict ∨ (Zone.offset behind hours minutes).IsLong) ↔
      minutes ≤ 99 ∧ hours * 60 + minutes < 24 * 60 := by
  unfold Zone.IsStrict Zone.IsLong
  omega

theorem offset?_eq_some_iff {s : List Char} {o : Int} :
    offset? s = some o ↔ ∃ z : Zone, s = z.text ∧ (z.IsStrict ∨ z.IsLong) ∧ z.minutesEast = o := by
  constructor
  · intro h
    unfold offset? at h
    split at h
    · cases h
      exact ⟨.utc, rfl, .inl trivial, rfl⟩
    · rename_i sign a b c d
      obtain ⟨hours, hhours, h⟩ := Option.bind_eq_some_iff.mp h
      obtain ⟨minutes, hminutes, h⟩ := Option.bind_eq_some_iff.mp h
      obtain ⟨-, hab⟩ := two?_eq_some_iff.mp hhours
      obtain ⟨hlt, hcd⟩ := two?_eq_some_iff.mp hminutes
      have htext : [sign, a, b, ':', c, d] = sign :: (padded 2 hours ++ ':' :: padded 2 minutes) := by
        rw [← hab, ← hcd]
        rfl
      dsimp only at h
      split at h
      · cases h
      · rename_i hday
        have hreadable : minutes ≤ 99 ∧ hours * 60 + minutes < 24 * 60 :=
          ⟨Nat.le_of_lt_succ hlt, Nat.lt_of_not_le hday⟩
        split at h
        · rename_i hsign
          cases h
          exact ⟨.offset false hours minutes, by rw [htext, hsign]; rfl,
            Zone.readable_iff.mpr hreadable, rfl⟩
        · split at h
          · rename_i hsign
            cases h
            exact ⟨.offset true hours minutes, by rw [htext, hsign]; rfl,
              Zone.readable_iff.mpr hreadable, rfl⟩
          · cases h
    · cases h
  · rintro ⟨z, rfl, hz, rfl⟩
    cases z with
    | utc => rfl
    | offset behind hours minutes =>
      obtain ⟨hminutes, hday⟩ := Zone.readable_iff.mp hz
      -- Less than a day in all, so the hours have two digits as well.
      obtain ⟨a, b, hab, hhours⟩ := exists_padded_two (by omega : hours < 100)
      obtain ⟨c, d, hcd, hmin⟩ := exists_padded_two (by omega : minutes < 100)
      cases behind <;>
        simp [Zone.text, hab, hcd, offset?, hhours, hmin, Nat.not_le.mpr hday, Zone.minutesEast]

/-- A zone goes on neither a row of digits nor a number before it. -/
theorem Zone.text_eq_cons (z : Zone) : ∃ c rest, z.text = c :: rest ∧ isDigit c = false ∧ c ≠ '.' := by
  cases z with
  | utc => exact ⟨'Z', [], rfl, rfl, by decide⟩
  | offset behind hours minutes =>
    cases behind with
    | false => exact ⟨'+', _, rfl, rfl, by decide⟩
    | true => exact ⟨'-', _, rfl, rfl, by decide⟩

/-! The fraction. -/

theorem fraction?_append {digits : List Char} (hdigits : ∀ c ∈ digits, isDigit c = true) (z : Zone) :
    fraction? (fractionText digits ++ z.text) = some (microseconds digits, z.text) := by
  obtain ⟨c, rest, hz, hc, hpoint⟩ := z.text_eq_cons
  rw [hz]
  unfold fractionText
  split
  · rename_i hnone
    rw [hnone, List.nil_append]
    unfold fraction?
    split
    · rename_i heq
      cases heq
      exact absurd rfl hpoint
    · rfl
  · rename_i hsome
    -- No digit begins a zone, so the row that is taken ends where the fraction does.
    have htake : (digits ++ c :: rest).takeWhile isDigit = digits := by
      rw [List.takeWhile_append_of_pos hdigits, List.takeWhile_cons_of_neg (by rw [hc]; decide),
        List.append_nil]
    have hdrop : (digits ++ c :: rest).dropWhile isDigit = c :: rest := by
      rw [List.dropWhile_append_of_pos hdigits, List.dropWhile_cons_of_neg (by rw [hc]; decide)]
    rw [List.cons_append, fraction?]
    simp only [htake, hdrop, List.isEmpty_iff, hsome, if_false]

theorem exists_of_fraction? {s rest : List Char} {n : Nat} (h : fraction? s = some (n, rest)) :
    ∃ digits : List Char, (∀ c ∈ digits, isDigit c = true) ∧ s = fractionText digits ++ rest ∧
      n = microseconds digits := by
  unfold fraction? at h
  split at h
  · rename_i more
    dsimp only at h
    split at h
    · cases h
    · rename_i hsome
      cases h
      refine ⟨more.takeWhile isDigit, fun c => List.mem_takeWhile_imp, ?_, rfl⟩
      rw [fractionText, if_neg (by simpa using hsome), List.cons_append,
        List.takeWhile_append_dropWhile]
  · cases h
    exact ⟨[], by simp, rfl, by decide⟩

/-! The whole. -/

theorem isValid_iff {t : Timestamp} :
    t.isValid = true ↔ IsDay t.year t.month t.day ∧ t.hour ≤ 23 ∧ t.minute ≤ 59 ∧ t.second ≤ 59 := by
  simp only [Timestamp.isValid, Bool.and_eq_true, decide_eq_true_eq, isDate_iff, and_assoc]

theorem timestamp?_eq_some_iff {s : List Char} {t : Timestamp} :
    timestamp? s = some t ↔
      ∃ w : Written, s = w.text ∧ w.IsTime ∧ (w.zone.IsStrict ∨ w.zone.IsLong) ∧ w.timestamp = t := by
  constructor
  · intro h
    unfold timestamp? at h
    split at h
    · obtain ⟨year, hyear, h⟩ := Option.bind_eq_some_iff.mp h
      obtain ⟨month, hmonth, h⟩ := Option.bind_eq_some_iff.mp h
      obtain ⟨day, hday, h⟩ := Option.bind_eq_some_iff.mp h
      obtain ⟨hour, hhour, h⟩ := Option.bind_eq_some_iff.mp h
      obtain ⟨minute, hminute, h⟩ := Option.bind_eq_some_iff.mp h
      obtain ⟨second, hsecond, h⟩ := Option.bind_eq_some_iff.mp h
      obtain ⟨⟨microsecond, zone⟩, hfraction, h⟩ := Option.bind_eq_some_iff.mp h
      obtain ⟨offset, hoffset, h⟩ := Option.bind_eq_some_iff.mp h
      dsimp only at h
      split at h
      · rename_i hvalid
        cases h
        obtain ⟨digits, hdigits, rfl, rfl⟩ := exists_of_fraction? hfraction
        obtain ⟨z, rfl, hz, rfl⟩ := offset?_eq_some_iff.mp hoffset
        obtain ⟨hdate, hclock⟩ := isValid_iff.mp hvalid
        refine ⟨⟨year, month, day, hour, minute, second, digits, z⟩, ?_,
          ⟨hdate, hclock.1, hclock.2.1, hclock.2.2, hdigits⟩, hz, rfl⟩
        unfold Written.text
        rw [← (four?_eq_some_iff.mp hyear).2, ← (two?_eq_some_iff.mp hmonth).2,
          ← (two?_eq_some_iff.mp hday).2, ← (two?_eq_some_iff.mp hhour).2,
          ← (two?_eq_some_iff.mp hminute).2, ← (two?_eq_some_iff.mp hsecond).2]
        rfl
      · cases h
    · cases h
  · rintro ⟨w, rfl, hw, hz, rfl⟩
    -- Every field but the fraction has its width: the text has the shape that the reader looks for.
    obtain ⟨hyear, hmonth, hday, hhour, hminute, hsecond⟩ := hw.fits
    obtain ⟨y₁, y₂, y₃, y₄, hy, hyear⟩ := exists_padded_four hyear
    obtain ⟨m₁, m₂, hm, hmonth⟩ := exists_padded_two hmonth
    obtain ⟨d₁, d₂, hd, hday⟩ := exists_padded_two hday
    obtain ⟨h₁, h₂, hh, hhour⟩ := exists_padded_two hhour
    obtain ⟨n₁, n₂, hn, hminute⟩ := exists_padded_two hminute
    obtain ⟨s₁, s₂, hs, hsecond⟩ := exists_padded_two hsecond
    have hfraction := fraction?_append hw.fraction w.zone
    have hoffset : offset? w.zone.text = some w.zone.minutesEast :=
      offset?_eq_some_iff.mpr ⟨w.zone, rfl, hz, rfl⟩
    have hvalid : w.timestamp.isValid = true :=
      isValid_iff.mpr ⟨hw.date, hw.hour, hw.minute, hw.second⟩
    unfold Written.text
    rw [hy, hm, hd, hh, hn, hs]
    simp only [List.cons_append, List.nil_append, timestamp?, hyear, hmonth, hday, hhour, hminute,
      hsecond, hfraction, hoffset, Option.bind_eq_bind, Option.bind_some]
    exact if_pos hvalid

/-! A text is written in one way only. -/

theorem Zone.text_inj {z z' : Zone} (hz : z.IsStrict ∨ z.IsLong) (hz' : z'.IsStrict ∨ z'.IsLong)
    (h : z.text = z'.text) : z = z' := by
  cases z with
  | utc =>
    cases z' with
    | utc => rfl
    | offset behind hours minutes => cases behind <;> cases h
  | offset behind hours minutes =>
    cases z' with
    | utc => cases behind <;> cases h
    | offset behind' hours' minutes' =>
      have hlt := Zone.readable_iff.mp hz
      have hlt' := Zone.readable_iff.mp hz'
      obtain ⟨hsign, hrest⟩ := List.cons.inj h
      obtain ⟨hhours, hrest⟩ := padded_append_inj (by decide) (by omega) (by omega) hrest
      have hbehind : behind = behind' := by
        cases behind <;> cases behind' <;> simp_all
      rw [hbehind, hhours, padded_inj (List.cons.inj hrest).2]

theorem fractionText_inj {digits digits' : List Char}
    (h : fractionText digits = fractionText digits') : digits = digits' := by
  unfold fractionText at h
  split at h <;> split at h <;> simp_all

theorem Written.text_inj {w w' : Written} (hw : w.IsTime) (hw' : w'.IsTime)
    (hz : w.zone.IsStrict ∨ w.zone.IsLong) (hz' : w'.zone.IsStrict ∨ w'.zone.IsLong)
    (h : w.text = w'.text) : w = w' := by
  obtain ⟨hyear, hmonth, hday, hhour, hminute, hsecond⟩ := hw.fits
  obtain ⟨hyear', hmonth', hday', hhour', hminute', hsecond'⟩ := hw'.fits
  obtain ⟨eyear, h⟩ := padded_append_inj (by decide) hyear hyear' h
  obtain ⟨emonth, h⟩ := padded_append_inj (by decide) hmonth hmonth' (List.cons.inj h).2
  obtain ⟨eday, h⟩ := padded_append_inj (by decide) hday hday' (List.cons.inj h).2
  obtain ⟨ehour, h⟩ := padded_append_inj (by decide) hhour hhour' (List.cons.inj h).2
  obtain ⟨eminute, h⟩ := padded_append_inj (by decide) hminute hminute' (List.cons.inj h).2
  obtain ⟨esecond, h⟩ := padded_append_inj (by decide) hsecond hsecond' (List.cons.inj h).2
  -- The fraction has no width to go by; reading it leaves the zone, which can then be taken off.
  have hread : some (microseconds w.fraction, w.zone.text) =
      some (microseconds w'.fraction, w'.zone.text) := by
    rw [← fraction?_append hw.fraction, h, fraction?_append hw'.fraction]
  have hzone := (Prod.mk.inj (Option.some.inj hread)).2
  rw [hzone] at h
  have ezone := Zone.text_inj hz hz' hzone
  have efraction := fractionText_inj (List.append_cancel_right h)
  cases w
  cases w'
  dsimp only at *
  subst_vars
  rfl

/-! Strict timestamps, and the others that are read. -/

/-- The text without the blanks around it is that of the fields. -/
def Written.StandsIn (w : Written) (v : String) : Prop := strip v.toList = w.text

instance (w : Written) (v : String) : Decidable (w.StandsIn v) :=
  inferInstanceAs (Decidable (_ = _))

/-- The text is a timestamp of RFC 3339. -/
def IsStrict (v : String) : Prop := ∃ w : Written, w.StandsIn v ∧ w.IsTime ∧ w.zone.IsStrict

/-- The text would be a timestamp but for the minutes of its offset, which are more than 59. -/
def HasLongOffset (v : String) : Prop := ∃ w : Written, w.StandsIn v ∧ w.IsTime ∧ w.zone.IsLong

/-- The text is read, and its fields are these. -/
def Written.IsReadIn (w : Written) (v : String) : Prop :=
  w.StandsIn v ∧ w.IsTime ∧ (w.zone.IsStrict ∨ w.zone.IsLong)

instance (w : Written) (v : String) : Decidable (w.IsReadIn v) :=
  inferInstanceAs (Decidable (_ ∧ _ ∧ (_ ∨ _)))

theorem Written.IsReadIn.unique {w w' : Written} {v : String} (h : w.IsReadIn v)
    (h' : w'.IsReadIn v) : w = w' :=
  Written.text_inj h.2.1 h'.2.1 h.2.2 h'.2.2 (h.1.symm.trans h'.1)

theorem parse?_eq_some_iff {v : String} {t : Timestamp} :
    Timestamp.parse? v = some t ↔ ∃ w : Written, w.IsReadIn v ∧ w.timestamp = t := by
  simp only [Written.IsReadIn, and_assoc]
  exact timestamp?_eq_some_iff

theorem Zone.not_isStrict_of_isLong {z : Zone} (h : z.IsLong) : ¬ z.IsStrict := by
  cases z with
  | utc => exact h.elim
  | offset behind hours minutes =>
    unfold Zone.IsStrict Zone.IsLong at *
    omega

theorem not_isStrict_of_hasLongOffset {v : String} (h : HasLongOffset v) : ¬ IsStrict v := by
  rintro ⟨w', hw', htime', hstrict⟩
  obtain ⟨w, hw, htime, hlong⟩ := h
  have hread : w.IsReadIn v := ⟨hw, htime, .inr hlong⟩
  obtain rfl := hread.unique ⟨hw', htime', .inl hstrict⟩
  exact Zone.not_isStrict_of_isLong hlong hstrict

/-- A text is read if it is a timestamp, or would be one but for an offset that is long and still less
than a day; the two exclude each other. -/
theorem parse?_isSome_iff (v : String) :
    ((Timestamp.parse? v).isSome = true ↔ IsStrict v ∨ HasLongOffset v) ∧
      (HasLongOffset v → ¬ IsStrict v) := by
  constructor
  · rw [Option.isSome_iff_exists]
    constructor
    · rintro ⟨t, h⟩
      obtain ⟨w, ⟨hw, htime, hzone⟩, -⟩ := parse?_eq_some_iff.mp h
      rcases hzone with hstrict | hlong
      · exact .inl ⟨w, hw, htime, hstrict⟩
      · exact .inr ⟨w, hw, htime, hlong⟩
    · rintro (⟨w, hw, htime, hstrict⟩ | ⟨w, hw, htime, hlong⟩)
      · exact ⟨_, parse?_eq_some_iff.mpr ⟨w, ⟨hw, htime, .inl hstrict⟩, rfl⟩⟩
      · exact ⟨_, parse?_eq_some_iff.mpr ⟨w, ⟨hw, htime, .inr hlong⟩, rfl⟩⟩
  · exact not_isStrict_of_hasLongOffset

/-- An offset of 5 hours and 99 minutes is read as one of 6 hours and 39 minutes. -/
theorem parse?_long_offset :
    (Timestamp.parse? "2024-01-01T00:00:00+05:99").map (·.offset) = some (6 * 60 + 39) ∧
      ¬ IsStrict "2024-01-01T00:00:00+05:99" := by
  refine ⟨by decide, not_isStrict_of_hasLongOffset ?_⟩
  exact ⟨⟨2024, 1, 1, 0, 0, 0, [], .offset false 5 99⟩, by decide, by decide, by decide⟩

end WorkWatch.Time
