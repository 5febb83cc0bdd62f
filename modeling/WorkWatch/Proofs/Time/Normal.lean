import Mathlib.Data.List.Basic
import WorkWatch.Proofs.Text.Split
import WorkWatch.Proofs.Time.Instant

/-! The text of a timestamp. Of all the texts that are read as one timestamp, one is in normal form:
no blanks around it, six digits of a fraction or none, and the offset in hours and minutes of less than
an hour, ahead of UTC where it is zero. That is the text which the timestamp is written as, so a
timestamp that was read is read again from its own text, and then has the same text. -/

namespace WorkWatch.Time

open WorkWatch.Text

/-! The offset. -/

namespace Zone

/-- The offset in whole hours and the minutes that remain. -/
def ofMinutes (offset : Int) : Zone :=
  .offset (decide (offset < 0)) (offset.natAbs / 60) (offset.natAbs % 60)

/-- Hours and minutes of a strict offset, and behind UTC only by more than nothing. -/
def IsNormal : Zone → Prop
  | utc => False
  | offset behind hours minutes =>
    hours ≤ 23 ∧ minutes ≤ 59 ∧ (behind = true → 0 < hours * 60 + minutes)

theorem text_ofMinutes (o : Int) : (ofMinutes o).text = offsetText o := by
  simp only [ofMinutes, text, offsetText, decide_eq_true_eq]

theorem minutesEast_ofMinutes (o : Int) : (ofMinutes o).minutesEast = o := by
  simp only [ofMinutes, minutesEast, Nat.div_add_mod', decide_eq_true_eq]
  split <;> omega

theorem isNormal_ofMinutes {o : Int} (h : o.natAbs < 24 * 60) : (ofMinutes o).IsNormal := by
  simp only [ofMinutes, IsNormal, decide_eq_true_eq]
  omega

theorem IsNormal.isStrict {z : Zone} (h : z.IsNormal) : z.IsStrict := by
  cases z with
  | utc => trivial
  | offset behind hours minutes => exact ⟨h.1, h.2.1⟩

theorem IsNormal.ofMinutes_minutesEast {z : Zone} (h : z.IsNormal) : ofMinutes z.minutesEast = z := by
  cases z with
  | utc => exact h.elim
  | offset behind hours minutes =>
    obtain ⟨-, hminutes, hbehind⟩ := h
    have hhours : (hours * 60 + minutes) / 60 = hours := by omega
    have hrest : (hours * 60 + minutes) % 60 = minutes := by omega
    cases behind with
    | false =>
      have hsign : ¬ ((hours * 60 + minutes : Nat) : Int) < 0 := by omega
      simp only [minutesEast, ofMinutes, Bool.false_eq_true, if_false, hsign, decide_false,
        Int.natAbs_natCast, hhours, hrest]
    | true =>
      have hsign : -((hours * 60 + minutes : Nat) : Int) < 0 := by
        have hpos := hbehind rfl
        omega
      simp only [minutesEast, ofMinutes, if_true, hsign, decide_true, Int.natAbs_neg,
        Int.natAbs_natCast, hhours, hrest]

theorem natAbs_minutesEast_lt {z : Zone} (h : z.IsStrict ∨ z.IsLong) :
    z.minutesEast.natAbs < 24 * 60 := by
  cases z with
  | utc => decide
  | offset behind hours minutes =>
    have hday := (readable_iff.mp h).2
    simp only [minutesEast]
    split <;> omega

end Zone

/-! The fraction. -/

/-- The digits of a fraction that show so many microseconds. -/
def shownDigits (n : Nat) : List Char := if n = 0 then [] else padded 6 n

/-- None, or six that are not all zeros. -/
def IsNormalFraction (digits : List Char) : Prop :=
  digits = [] ∨ digits.length = 6 ∧ digits ≠ List.replicate 6 '0'

theorem isDigit_of_mem_shownDigits {n : Nat} : ∀ c ∈ shownDigits n, isDigit c = true := by
  intro c hc
  unfold shownDigits at hc
  split at hc
  · cases hc
  · exact isDigit_of_mem_padded hc

theorem microseconds_of_length {digits : List Char} (hdigits : ∀ c ∈ digits, isDigit c = true)
    (h : digits.length = 6) : microseconds digits = ofDigits digits := by
  rw [microseconds_eq hdigits, h, Nat.mul_div_cancel _ (by decide)]

theorem microseconds_shownDigits {n : Nat} (h : n < 10 ^ 6) : microseconds (shownDigits n) = n := by
  unfold shownDigits
  split
  · rename_i hzero
    rw [hzero]
    decide
  · rw [microseconds_of_length (fun _ => isDigit_of_mem_padded) (length_padded (by decide) h),
      ofDigits_padded]

theorem isNormalFraction_shownDigits {n : Nat} (h : n < 10 ^ 6) :
    IsNormalFraction (shownDigits n) := by
  unfold shownDigits
  split
  · exact .inl rfl
  · rename_i hpos
    refine .inr ⟨length_padded (by decide) h, fun hzeros => hpos ?_⟩
    rw [← ofDigits_padded 6 n, hzeros, ofDigits_replicate_zero]

theorem shownDigits_microseconds {digits : List Char} (hdigits : ∀ c ∈ digits, isDigit c = true)
    (h : IsNormalFraction digits) : shownDigits (microseconds digits) = digits := by
  rcases h with rfl | ⟨hlength, hsome⟩
  · decide
  -- Of the rows of six digits, that of zeros alone denotes zero.
  · have hpos : ofDigits digits ≠ 0 := by
      intro hzero
      apply hsome
      apply ofDigits_inj
      · rw [hlength, List.length_replicate]
      · exact hdigits
      · intro c hc
        rw [List.eq_of_mem_replicate hc]
        rfl
      · rw [hzero, ofDigits_replicate_zero]
    have hne : digits ≠ [] := by
      rintro rfl
      cases hlength
    rw [microseconds_of_length hdigits hlength, shownDigits, if_neg hpos]
    have hpadded := ((eq_padded_iff hne).mp ⟨hdigits, rfl⟩).2
    rw [hlength] at hpadded
    exact hpadded.symm

theorem fractionText_shownDigits {n : Nat} :
    fractionText (shownDigits n) = if n = 0 then [] else '.' :: padded 6 n := by
  unfold shownDigits
  split
  · rfl
  · refine if_neg fun hnone => ?_
    have hdigits := List.append_eq_nil_iff.mp hnone
    exact absurd hdigits.2 Nat.toDigits_ne_nil

/-! Texts that are read as the fields they are made of. -/

theorem not_isBlank_of_isDigit {c : Char} (h : isDigit c = true) : isBlank c = false := by
  have hrange := isDigit_iff.mp h
  simp only [isBlank, Bool.or_eq_false_iff, Bool.and_eq_false_iff, decide_eq_false_iff_not,
    beq_eq_false_iff_ne]
  omega

namespace Written

variable {w : Written}

theorem not_isBlank_of_mem_text (h : ∀ c ∈ w.fraction, isDigit c = true) :
    ∀ c ∈ w.text, isBlank c = false := by
  have hpadded (width n : Nat) : ∀ c ∈ padded width n, isBlank c = false :=
    fun c hc => not_isBlank_of_isDigit (isDigit_of_mem_padded hc)
  have hfraction : ∀ c ∈ fractionText w.fraction, isBlank c = false := by
    unfold fractionText
    split
    · exact List.forall_mem_nil _
    · exact List.forall_mem_cons.mpr ⟨by decide, fun c hc => not_isBlank_of_isDigit (h c hc)⟩
  have hzone : ∀ c ∈ w.zone.text, isBlank c = false := by
    cases w.zone with
    | utc => exact List.forall_mem_cons.mpr ⟨by decide, List.forall_mem_nil _⟩
    | offset behind hours minutes =>
      refine List.forall_mem_cons.mpr ⟨by cases behind <;> decide, ?_⟩
      exact List.forall_mem_append.mpr
        ⟨hpadded 2 hours, List.forall_mem_cons.mpr ⟨by decide, hpadded 2 minutes⟩⟩
  have hmarks : isBlank '-' = false ∧ isBlank ':' = false ∧ isBlank 'T' = false := by decide
  simp only [text, List.forall_mem_append, List.forall_mem_cons, hmarks, true_and]
  exact ⟨hpadded 4 _, hpadded 2 _, hpadded 2 _, hpadded 2 _, hpadded 2 _, hpadded 2 _, hfraction, hzone⟩

theorem IsTime.isReadIn {v : String} (hw : w.IsTime) (hz : w.zone.IsStrict ∨ w.zone.IsLong)
    (h : v.toList = w.text) : w.IsReadIn v := by
  refine ⟨?_, hw, hz⟩
  unfold StandsIn
  rw [h]
  exact strip_of_not_isBlank (not_isBlank_of_mem_text hw.fraction)

/-- The fields of a time of an existing day as a normal form shows them. -/
structure IsNormal (w : Written) : Prop where
  time : w.IsTime
  fraction : IsNormalFraction w.fraction
  zone : w.zone.IsNormal

end Written

/-! Timestamps that can be read, and the fields that they are written with. -/

namespace Timestamp

/-- The fields make a time of an existing day, with microseconds of less than a second and an offset
of less than a day. -/
structure IsProper (t : Timestamp) : Prop where
  date : IsDay t.year t.month t.day
  hour : t.hour ≤ 23
  minute : t.minute ≤ 59
  second : t.second ≤ 59
  microsecond : t.microsecond < 10 ^ 6
  offset : t.offset.natAbs < 24 * 60

/-- The fields that the text of a timestamp shows. -/
def written (t : Timestamp) : Written where
  year := t.year
  month := t.month
  day := t.day
  hour := t.hour
  minute := t.minute
  second := t.second
  fraction := shownDigits t.microsecond
  zone := .ofMinutes t.offset

variable {v v' : String} {t t' : Timestamp}

theorem isProper_of_parse? (h : parse? v = some t) : t.IsProper := by
  obtain ⟨w, ⟨-, hw, hz⟩, rfl⟩ := parse?_eq_some_iff.mp h
  exact ⟨hw.date, hw.hour, hw.minute, hw.second, microseconds_lt hw.fraction,
    Zone.natAbs_minutesEast_lt hz⟩

theorem toList_text (t : Timestamp) : t.text.toList = t.written.text := by
  unfold text Written.text written
  rw [String.toList_ofList, fractionText_shownDigits, Zone.text_ofMinutes]
  simp only [List.append_assoc, List.cons_append]

theorem IsProper.isNormal_written (h : t.IsProper) : t.written.IsNormal where
  time := ⟨h.date, h.hour, h.minute, h.second, isDigit_of_mem_shownDigits⟩
  fraction := isNormalFraction_shownDigits h.microsecond
  zone := Zone.isNormal_ofMinutes h.offset

theorem IsProper.timestamp_written (h : t.IsProper) : t.written.timestamp = t := by
  unfold Written.timestamp written
  rw [microseconds_shownDigits h.microsecond, Zone.minutesEast_ofMinutes]

theorem written_timestamp {w : Written} (h : w.IsNormal) : w.timestamp.written = w := by
  unfold Written.timestamp written
  rw [shownDigits_microseconds h.time.fraction h.fraction, h.zone.ofMinutes_minutesEast]

theorem IsProper.parse?_text (h : t.IsProper) : parse? t.text = some t := by
  have hnormal := h.isNormal_written
  have hread : t.written.IsReadIn t.text :=
    hnormal.time.isReadIn (.inl hnormal.zone.isStrict) t.toList_text
  exact parse?_eq_some_iff.mpr ⟨t.written, hread, h.timestamp_written⟩

/-- The moment and the offset tell all the fields. -/
theorem IsProper.eq_of_instant (h : t.IsProper) (h' : t'.IsProper) (hinstant : t.instant = t'.instant)
    (hoffset : t.offset = t'.offset) : t = t' := by
  have hzone : t.written.zone.minutesEast = t'.written.zone.minutesEast := by
    change (Zone.ofMinutes t.offset).minutesEast = (Zone.ofMinutes t'.offset).minutesEast
    rw [hoffset]
  have hlt := Written.instant_lt_iff h.isNormal_written.time h'.isNormal_written.time hzone
  have hgt := Written.instant_lt_iff h'.isNormal_written.time h.isNormal_written.time hzone.symm
  rw [h.timestamp_written, h'.timestamp_written, hinstant] at hlt hgt
  -- Neither comes before the other, and with one offset the order of moments is that of the fields.
  have hfields : t.written.fields = t'.written.fields :=
    List.le_antisymm (List.not_lt.mp (mt hgt.mpr (lt_irrefl _)))
      (List.not_lt.mp (mt hlt.mpr (lt_irrefl _)))
  unfold Written.fields written at hfields
  rw [microseconds_shownDigits h.microsecond, microseconds_shownDigits h'.microsecond] at hfields
  cases t
  cases t'
  simp_all

end Timestamp

/-- The text is a timestamp `YYYY-MM-DDThh:mm:ss` or `YYYY-MM-DDThh:mm:ss.ffffff`, not with six zeros,
and behind it an offset `+hh:mm` or `-hh:mm`, not `-00:00`. -/
def IsNormal (v : String) : Prop := ∃ w : Written, v.toList = w.text ∧ w.IsNormal

/-- Texts in normal form are those that a timestamp is written as when it was read from them. -/
theorem isNormal_iff {v : String} :
    IsNormal v ↔ ∃ t, Timestamp.parse? v = some t ∧ t.text = v := by
  constructor
  · rintro ⟨w, hv, hw⟩
    have hread : w.IsReadIn v := hw.time.isReadIn (.inl hw.zone.isStrict) hv
    refine ⟨w.timestamp, parse?_eq_some_iff.mpr ⟨w, hread, rfl⟩, String.toList_inj.mp ?_⟩
    rw [Timestamp.toList_text, Timestamp.written_timestamp hw, hv]
  · rintro ⟨t, h, rfl⟩
    exact ⟨t.written, t.toList_text, (Timestamp.isProper_of_parse? h).isNormal_written⟩

/-- A timestamp that was read is read again from its own text, and that text is in normal form; it is
the text of every timestamp that was read with the same moment and the same offset, and of no other. -/
theorem text_normalForm {v : String} {t : Timestamp} (h : Timestamp.parse? v = some t) :
    Timestamp.parse? t.text = some t ∧ IsNormal t.text ∧
      ∀ v' t', Timestamp.parse? v' = some t' →
        (t'.text = t.text ↔ t'.instant = t.instant ∧ t'.offset = t.offset) := by
  have hproper := Timestamp.isProper_of_parse? h
  have hagain := hproper.parse?_text
  refine ⟨hagain, isNormal_iff.mpr ⟨t, hagain, rfl⟩, fun v' t' h' => ?_⟩
  have hproper' := Timestamp.isProper_of_parse? h'
  constructor
  · intro htext
    have hagain' := hproper'.parse?_text
    rw [htext, hagain] at hagain'
    cases hagain'
    exact ⟨rfl, rfl⟩
  · rintro ⟨hinstant, hoffset⟩
    rw [hproper'.eq_of_instant hproper hinstant hoffset]

/-- Blanks, a seventh digit and an offset of zero behind UTC are gone from the text. The same moment
two hours ahead of UTC, a day later there, has another text. -/
theorem text_normalForm_leap_day :
    let t : Timestamp := ⟨2024, 2, 29, 23, 59, 59, 123450, 0⟩
    let t' : Timestamp := ⟨2024, 3, 1, 1, 59, 59, 123450, 120⟩
    Timestamp.parse? "\t2024-02-29T23:59:59.1234509-00:00 " = some t ∧
      Timestamp.parse? "2024-03-01T01:59:59.12345+02:00" = some t' ∧
      t.text = "2024-02-29T23:59:59.123450+00:00" ∧
      Timestamp.parse? t.text = some t ∧ IsNormal t.text ∧
      t'.instant = t.instant ∧ t'.text ≠ t.text := by
  intro t t'
  have h : Timestamp.parse? "\t2024-02-29T23:59:59.1234509-00:00 " = some t := by decide
  have h' : Timestamp.parse? "2024-03-01T01:59:59.12345+02:00" = some t' := by decide
  obtain ⟨hagain, hnormal, hsame⟩ := text_normalForm h
  refine ⟨h, h', by decide, hagain, hnormal, by decide, fun htext => ?_⟩
  exact absurd ((hsame _ t' h').mp htext).2 (by decide)

end WorkWatch.Time
