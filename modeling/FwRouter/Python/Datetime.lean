import FwRouter.Python.Text

/-!
# Timestamps as texts

Instants are microseconds since the first day of the year 1, in UTC.  `isoformat` prints one as
`datetime.isoformat` does, `sqliteDatetime` prints whole seconds as SQLite's `datetime` does, down to
the proleptic calendar.

Texts are compared character by character.  The fields of a timestamp have fixed widths and stand in
the order of their weight, so the order of the texts is the order of the instants as long as both
are printed by the same function (`isoformat_lt_iff`).  A text of the one kind and a text of the
other are ordered by their days alone, because the character between day and time is not the same
(`sqliteDatetime_le_isoformat_iff`).
-/

namespace Py

/-! ## Digits -/

/-- The `w` last decimal digits of a number. -/
def digits : ℕ → ℕ → Text
  | 0, _ => []
  | w + 1, n => digits w (n / 10) ++ [Nat.digitChar (n % 10)]

@[simp] lemma length_digits (w n : ℕ) : (digits w n).length = w := by
  induction w generalizing n with
  | zero => rfl
  | succ w ih => rw [digits, List.length_append, ih]; rfl

/-- Texts of one length, followed by others, are compared first. -/
lemma append_lt_append_iff {p p' q q' : Text} (h : p.length = p'.length) :
    p ++ q < p' ++ q' ↔ p < p' ∨ p = p' ∧ q < q' := by
  induction p generalizing p' with
  | nil =>
      obtain rfl := List.length_eq_zero_iff.mp h.symm
      simp
  | cons c p ih =>
      cases p' with
      | nil => simp at h
      | cons d p' =>
          rw [List.cons_append, List.cons_append, List.cons_lt_cons_iff, List.cons_lt_cons_iff,
            ih (by simpa using h), List.cons.injEq]
          tauto

lemma digitChar_lt {a b : ℕ} (hb : b < 10) (h : a < b) : Nat.digitChar a < Nat.digitChar b := by
  have hall : ∀ b < 10, ∀ a < b, Nat.digitChar a < Nat.digitChar b := by decide
  exact hall b hb a h

/-- Numbers of one width have the order of their digits. -/
lemma digits_lt {w a b : ℕ} (hb : b < 10 ^ w) (h : a < b) : digits w a < digits w b := by
  induction w generalizing a b with
  | zero =>
      rw [pow_zero] at hb
      omega
  | succ w ih =>
      rw [digits, digits, append_lt_append_iff (by simp)]
      rw [pow_succ] at hb
      rcases Nat.lt_or_ge (a / 10) (b / 10) with hlt | hge
      · exact Or.inl (ih (by omega) hlt)
      · have heq : a / 10 = b / 10 := by omega
        refine Or.inr ⟨by rw [heq], ?_⟩
        rw [List.cons_lt_cons_iff]
        exact Or.inl (digitChar_lt (Nat.mod_lt _ (by decide)) (by omega))

/-- The first digit stands alone before the others. -/
lemma digits_succ (w n : ℕ) : digits (w + 1) n = Nat.digitChar (n / 10 ^ w % 10) :: digits w n := by
  induction w generalizing n with
  | zero => simp [digits]
  | succ w ih =>
      rw [digits, ih, List.cons_append, Nat.div_div_eq_div_mul, ← pow_succ']
      rfl

lemma dash_lt_digit (n : ℕ) : '-' < Nat.digitChar (n % 10) := by
  have hall : ∀ d < 10, '-' < Nat.digitChar d := by decide
  exact hall _ (Nat.mod_lt n (by decide))

/-! ## The calendar -/

/-- The days before the `y`-th year, counted from the year 1. -/
def daysBeforeYear (y : ℕ) : ℕ := (y - 1) * 365 + (y - 1) / 4 - (y - 1) / 100 + (y - 1) / 400

def isLeap (y : ℕ) : Bool := y % 4 == 0 && (y % 100 != 0 || y % 400 == 0)

/-- The days before the `m`-th month in a year. -/
def daysBeforeMonth (leap : Bool) (m : ℕ) : ℕ :=
  [0, 31, 59, 90, 120, 151, 181, 212, 243, 273, 304, 334].getD (m - 1) 365 +
    if leap && decide (2 < m) then 1 else 0

/-- A date of the proleptic Gregorian calendar. -/
structure Civil where
  year : ℤ
  month : ℕ
  day : ℕ
deriving DecidableEq, Repr

/-- The year of a day of the cycle of 400 years. -/
def yearOfCycle (r : ℕ) : ℕ := Nat.findGreatest (fun y => daysBeforeYear (y + 1) ≤ r) 399 + 1

/-- The month of a day of a year. -/
def monthOfYear (leap : Bool) (rest : ℕ) : ℕ :=
  Nat.findGreatest (fun m => daysBeforeMonth leap (m + 1) ≤ rest) 11 + 1

/-- The date of a day; the day `0` is the first of January of the year 1. -/
def civil (n : ℤ) : Civil :=
  let r := (n % 146097).toNat
  let y := yearOfCycle r
  let rest := r - daysBeforeYear y
  let m := monthOfYear (isLeap y) rest
  ⟨400 * (n / 146097) + y, m, rest - daysBeforeMonth (isLeap y) m + 1⟩

example : civil 0 = ⟨1, 1, 1⟩ ∧ civil (-1) = ⟨0, 12, 31⟩ ∧ civil 738885 = ⟨2024, 1, 1⟩ ∧
    civil 3652058 = ⟨9999, 12, 31⟩ := by decide +kernel

/-- The order of dates: by year, then month, then day. -/
def Civil.lt (a b : Civil) : Prop :=
  a.year < b.year ∨ a.year = b.year ∧ (a.month < b.month ∨ a.month = b.month ∧ a.day < b.day)

lemma findGreatest_spec (P : ℕ → Prop) [DecidablePred P] (n : ℕ) (h : P 0) :
    P (Nat.findGreatest P n) ∧ ∀ k, Nat.findGreatest P n < k → k ≤ n → ¬ P k :=
  ⟨Nat.findGreatest_spec (Nat.zero_le n) h, fun _ hk hn => Nat.findGreatest_is_greatest hk hn⟩

lemma yearOfCycle_spec (r : ℕ) : 1 ≤ yearOfCycle r ∧ yearOfCycle r ≤ 400 ∧
    daysBeforeYear (yearOfCycle r) ≤ r ∧ ∀ y, yearOfCycle r < y → y ≤ 400 → r < daysBeforeYear y := by
  have hle := @Nat.findGreatest_le (fun y => daysBeforeYear (y + 1) ≤ r) _ 399
  rcases findGreatest_spec (fun y => daysBeforeYear (y + 1) ≤ r) 399 (Nat.zero_le r) with
    ⟨hspec, hmax⟩
  refine ⟨by rw [yearOfCycle]; omega, by rw [yearOfCycle]; omega, hspec, fun y hy hy' => ?_⟩
  have := hmax (y - 1) (by rw [yearOfCycle] at hy; omega) (by omega)
  rw [show y - 1 + 1 = y by omega] at this
  exact not_le.mp this

lemma monthOfYear_spec (leap : Bool) (rest : ℕ) : 1 ≤ monthOfYear leap rest ∧
    monthOfYear leap rest ≤ 12 ∧ daysBeforeMonth leap (monthOfYear leap rest) ≤ rest ∧
    ∀ m, monthOfYear leap rest < m → m ≤ 12 → rest < daysBeforeMonth leap m := by
  have hle := @Nat.findGreatest_le (fun m => daysBeforeMonth leap (m + 1) ≤ rest) _ 11
  have hzero : daysBeforeMonth leap (0 + 1) ≤ rest := by simp [daysBeforeMonth]
  rcases findGreatest_spec (fun m => daysBeforeMonth leap (m + 1) ≤ rest) 11 hzero with ⟨hspec, hmax⟩
  refine ⟨by rw [monthOfYear]; omega, by rw [monthOfYear]; omega, hspec, fun m hm hm' => ?_⟩
  have := hmax (m - 1) (by rw [monthOfYear] at hm; omega) (by omega)
  rw [show m - 1 + 1 = m by omega] at this
  exact not_le.mp this

lemma daysBeforeYear_succ {y : ℕ} (hy : 1 ≤ y) :
    daysBeforeYear (y + 1) = daysBeforeYear y + if isLeap y then 366 else 365 := by
  obtain ⟨k, rfl⟩ : ∃ k, y = k + 1 := ⟨y - 1, by omega⟩
  have hle : k / 100 ≤ k / 4 := Nat.div_le_div_left (by decide) (by decide)
  have h4 : 100 ∣ k + 1 → 4 ∣ k + 1 := Nat.dvd_trans (by decide)
  have h100 : 400 ∣ k + 1 → 100 ∣ k + 1 := Nat.dvd_trans (by decide)
  have hleap : isLeap (k + 1) = true ↔ 4 ∣ k + 1 ∧ (¬ 100 ∣ k + 1 ∨ 400 ∣ k + 1) := by
    simp [isLeap, Nat.dvd_iff_mod_eq_zero]
  rw [daysBeforeYear, daysBeforeYear, Nat.add_sub_cancel, Nat.add_sub_cancel]
  simp only [Nat.succ_div, hleap]
  by_cases hd4 : 4 ∣ k + 1
  · by_cases hd100 : 100 ∣ k + 1
    · by_cases hd400 : 400 ∣ k + 1
      · simp only [hd4, hd100, hd400, if_true, not_true, or_true, and_true]
        omega
      · simp only [hd4, hd100, hd400, if_true, if_false, not_true, or_false, and_false]
        omega
    · have hd400 : ¬ 400 ∣ k + 1 := fun h => hd100 (h100 h)
      simp only [hd4, hd100, hd400, if_true, if_false, not_false_eq_true, true_or, and_true]
      omega
  · have hd100 : ¬ 100 ∣ k + 1 := fun h => hd4 (h4 h)
    have hd400 : ¬ 400 ∣ k + 1 := fun h => hd100 (h100 h)
    simp only [hd4, hd100, hd400, if_false, false_and]
    omega

lemma day_le {leap : Bool} {rest m : ℕ} (hrest : rest < if leap then 366 else 365) (hm : 1 ≤ m)
    (hm' : m ≤ 12) (hnext : m + 1 ≤ 12 → rest < daysBeforeMonth leap (m + 1)) :
    rest - daysBeforeMonth leap m + 1 ≤ 31 := by
  cases leap with
  | true =>
      interval_cases m <;> simp [daysBeforeMonth] at hrest hnext ⊢ <;> omega
  | false =>
      interval_cases m <;> simp [daysBeforeMonth] at hrest hnext ⊢ <;> omega

/-- The fields of a date have two digits but for the year. -/
lemma civil_bounds (n : ℤ) : 1 ≤ (civil n).month ∧ (civil n).month ≤ 12 ∧ 1 ≤ (civil n).day ∧
    (civil n).day ≤ 31 ∧ 400 * (n / 146097) < (civil n).year ∧
    (civil n).year ≤ 400 * (n / 146097) + 400 := by
  set r := (n % 146097).toNat with hr
  have hr' : r < 146097 := by omega
  have hyear := yearOfCycle_spec r
  set y := yearOfCycle r with hy
  have hmonth := monthOfYear_spec (isLeap y) (r - daysBeforeYear y)
  have hcivil : civil n = ⟨400 * (n / 146097) + y, monthOfYear (isLeap y) (r - daysBeforeYear y),
      r - daysBeforeYear y - daysBeforeMonth (isLeap y)
        (monthOfYear (isLeap y) (r - daysBeforeYear y)) + 1⟩ := rfl
  set rest := r - daysBeforeYear y with hrest
  -- what is left of the year is less than the year
  have hlt : rest < if isLeap y then 366 else 365 := by
    have hsucc := daysBeforeYear_succ hyear.1
    generalize (if isLeap y then 366 else 365) = length at hsucc ⊢
    have hend : r < daysBeforeYear (y + 1) := by
      by_cases hlast : y = 400
      · have h401 : daysBeforeYear (400 + 1) = 146097 := by decide
        rw [hlast, h401]
        exact hr'
      · exact hyear.2.2.2 (y + 1) (by omega) (by omega)
    omega
  have hday : rest - daysBeforeMonth (isLeap y) (monthOfYear (isLeap y) rest) + 1 ≤ 31 := by
    generalize monthOfYear (isLeap y) rest = m at hmonth
    rcases hmonth with ⟨hmge, hmle, -, hmax⟩
    exact day_le hlt hmge hmle fun h => hmax (m + 1) (Nat.lt_succ_self m) h
  rw [hcivil]
  exact ⟨hmonth.1, hmonth.2.1, Nat.succ_le_succ (Nat.zero_le _), hday, by dsimp only; omega,
    by dsimp only; omega⟩

/-- **Dates have the order of their days.** -/
theorem civil_lt {n n' : ℤ} (h : n < n') : (civil n).lt (civil n') := by
  have hbounds := civil_bounds n
  have hbounds' := civil_bounds n'
  rcases lt_or_eq_of_le (show n / 146097 ≤ n' / 146097 by omega) with hcycle | hcycle
  · exact Or.inl (by omega)
  have hr : (n % 146097).toNat < (n' % 146097).toNat := by omega
  have hyear := yearOfCycle_spec (n % 146097).toNat
  have hyear' := yearOfCycle_spec (n' % 146097).toNat
  rw [Civil.lt, civil, civil]
  dsimp only
  rw [hcycle]
  generalize (n % 146097).toNat = r at *
  generalize (n' % 146097).toNat = r' at *
  rcases Nat.lt_trichotomy (yearOfCycle r) (yearOfCycle r') with hy | hy | hy
  · exact Or.inl (by omega)
  · rw [← hy] at hyear' ⊢
    refine Or.inr ⟨rfl, ?_⟩
    have hmonth := monthOfYear_spec (isLeap (yearOfCycle r)) (r - daysBeforeYear (yearOfCycle r))
    have hmonth' := monthOfYear_spec (isLeap (yearOfCycle r)) (r' - daysBeforeYear (yearOfCycle r))
    have hrest : r - daysBeforeYear (yearOfCycle r) < r' - daysBeforeYear (yearOfCycle r) := by omega
    generalize r - daysBeforeYear (yearOfCycle r) = rest at *
    generalize r' - daysBeforeYear (yearOfCycle r) = rest' at *
    generalize isLeap (yearOfCycle r) = leap at *
    rcases Nat.lt_trichotomy (monthOfYear leap rest) (monthOfYear leap rest') with hm | hm | hm
    · exact Or.inl hm
    · rw [← hm] at hmonth' ⊢
      exact Or.inr ⟨rfl, by omega⟩
    · exfalso
      have := hmonth'.2.2.2 (monthOfYear leap rest) hm hmonth.2.1
      omega
  · exfalso
    have := hyear'.2.2.2 (yearOfCycle r) hy hyear.2.1
    omega

/-! ## The texts -/

/-- `YYYY-MM-DD`. -/
def datePart (c : Civil) : Text :=
  digits 4 c.year.toNat ++ ('-' :: digits 2 c.month ++ ('-' :: digits 2 c.day))

/-- `HH:MM:SS`, of a second of the day. -/
def clockPart (s : ℕ) : Text :=
  digits 2 (s / 3600) ++ (':' :: digits 2 (s / 60 % 60) ++ (':' :: digits 2 (s % 60)))

/-- The fraction is left out when it is zero. -/
def fractionPart (microseconds : ℕ) : Text :=
  if microseconds = 0 then [] else '.' :: digits 6 microseconds

/-- `datetime.isoformat()` of an instant in UTC. -/
def isoformat (t : ℤ) : Text :=
  datePart (civil (t / 86400000000)) ++
    ('T' :: clockPart (t % 86400000000 / 1000000).toNat ++
      (fractionPart (t % 1000000).toNat ++ "+00:00".toList))

/-- SQLite's `datetime`, of whole seconds; a year before the year 0 has a sign. -/
def sqliteDatetime (s : ℤ) : Text :=
  let c := civil (s / 86400)
  (if c.year < 0 then '-' :: datePart { c with year := -c.year } else datePart c) ++
    ' ' :: clockPart (s % 86400).toNat

example : isoformat 63871322400000000 = "2025-01-01T10:00:00+00:00".toList ∧
    isoformat 63871322400000001 = "2025-01-01T10:00:00.000001+00:00".toList ∧
    sqliteDatetime 63871322400 = "2025-01-01 10:00:00".toList := by decide +kernel

/-- The instants that a `datetime` can hold: the years 1 to 9999. -/
def ValidInstant (t : ℤ) : Prop := 0 ≤ t ∧ t < 3652059 * 86400000000

instance (t : ℤ) : Decidable (ValidInstant t) := inferInstanceAs (Decidable (_ ∧ _))

/-- The dates that are printed with four digits for the year. -/
def Civil.Printable (c : Civil) : Prop :=
  0 ≤ c.year ∧ c.year ≤ 9999 ∧ c.month ≤ 12 ∧ c.day ≤ 31

lemma printable_civil {n : ℤ} (h : 0 ≤ n) (h' : n < 3652059) : (civil n).Printable := by
  have hbounds := civil_bounds n
  have hlast : ¬ (civil 3652058).lt (civil n) := by
    rcases lt_or_eq_of_le (show n ≤ 3652058 by omega) with hlt | rfl
    · have := civil_lt hlt
      rw [Civil.lt] at this ⊢
      omega
    · rw [Civil.lt]
      omega
  have hyear : (civil 3652058).year = 9999 := by decide +kernel
  refine ⟨by omega, ?_, hbounds.2.1, hbounds.2.2.2.1⟩
  rw [Civil.lt, hyear] at hlast
  omega

@[simp] lemma length_datePart (c : Civil) : (datePart c).length = 10 := by
  simp [datePart]

@[simp] lemma length_clockPart (s : ℕ) : (clockPart s).length = 8 := by
  simp [clockPart]

lemma datePart_cons (c : Civil) : ∃ n rest, datePart c = Nat.digitChar (n % 10) :: rest := by
  rw [datePart, digits_succ, List.cons_append]
  exact ⟨_, _, rfl⟩

lemma cons_lt_cons_iff' {c : Char} {p q : Text} : c :: p < c :: q ↔ p < q := by
  rw [List.cons_lt_cons_iff]
  simp

lemma datePart_lt {a b : Civil} (hb : b.Printable) (ha : 0 ≤ a.year) (h : a.lt b) :
    datePart a < datePart b := by
  rcases hb with ⟨hy, hy', hm, hd⟩
  rw [datePart, datePart, append_lt_append_iff (by simp), List.cons_append, List.cons_append,
    cons_lt_cons_iff', append_lt_append_iff (by simp), cons_lt_cons_iff']
  rcases h with h | ⟨heq, h | ⟨heq', h⟩⟩
  · exact Or.inl (digits_lt (by omega) (by omega))
  · exact Or.inr ⟨by rw [heq], Or.inl (digits_lt (by omega) h)⟩
  · exact Or.inr ⟨by rw [heq], Or.inr ⟨by rw [heq'], digits_lt (by omega) h⟩⟩

lemma clockPart_lt {s s' : ℕ} (hs' : s' < 86400) (h : s < s') : clockPart s < clockPart s' := by
  rw [clockPart, clockPart, append_lt_append_iff (by simp), List.cons_append, List.cons_append,
    cons_lt_cons_iff', append_lt_append_iff (by simp), cons_lt_cons_iff']
  rcases Nat.lt_or_ge (s / 3600) (s' / 3600) with hh | hh
  · exact Or.inl (digits_lt (by omega) hh)
  have hhour : s / 3600 = s' / 3600 := by omega
  refine Or.inr ⟨by rw [hhour], ?_⟩
  rcases Nat.lt_or_ge (s / 60 % 60) (s' / 60 % 60) with hm | hm
  · exact Or.inl (digits_lt (by omega) hm)
  have hminute : s / 60 % 60 = s' / 60 % 60 := by omega
  exact Or.inr ⟨by rw [hminute], digits_lt (by omega) (by omega)⟩

/-- The fraction left out comes first: `+` is before the point. -/
lemma fractionPart_lt {f f' : ℕ} (hf' : f' < 1000000) (h : f < f') (rest rest' : Text) :
    fractionPart f ++ '+' :: rest < fractionPart f' ++ '+' :: rest' := by
  rw [fractionPart, fractionPart, if_neg (show ¬ f' = 0 by omega)]
  split_ifs
  · rw [List.nil_append, List.cons_append, List.cons_lt_cons_iff]
    exact Or.inl (by decide)
  · rw [List.cons_append, List.cons_append, cons_lt_cons_iff', append_lt_append_iff (by simp)]
    exact Or.inl (digits_lt (by omega) h)

/-- **The texts of instants have the order of the instants.** -/
theorem isoformat_lt {t t' : ℤ} (ht : 0 ≤ t) (ht' : ValidInstant t') (h : t < t') :
    isoformat t < isoformat t' := by
  have hday' : t' / 86400000000 < 3652059 := by
    have := ht'.2
    omega
  rw [isoformat, isoformat, append_lt_append_iff (by simp), List.cons_append, List.cons_append,
    cons_lt_cons_iff', append_lt_append_iff (by simp)]
  rcases lt_or_eq_of_le (show t / 86400000000 ≤ t' / 86400000000 by omega) with hday | hday
  · have hprint := printable_civil (show 0 ≤ t / 86400000000 by omega) (by omega)
    exact Or.inl (datePart_lt (printable_civil (by omega) hday') hprint.1 (civil_lt hday))
  refine Or.inr ⟨by rw [hday], ?_⟩
  rcases lt_or_eq_of_le (show t % 86400000000 / 1000000 ≤ t' % 86400000000 / 1000000 by omega)
    with hsecond | hsecond
  · exact Or.inl (clockPart_lt (by omega) (by omega))
  refine Or.inr ⟨by rw [hsecond], ?_⟩
  exact fractionPart_lt (by omega) (by omega) _ _

theorem isoformat_lt_iff {t t' : ℤ} (ht : ValidInstant t) (ht' : ValidInstant t') :
    isoformat t < isoformat t' ↔ t < t' := by
  refine ⟨fun h => ?_, isoformat_lt ht.1 ht'⟩
  by_contra hle
  rcases lt_or_eq_of_le (not_lt.mp hle) with hlt | rfl
  · exact lt_asymm h (isoformat_lt ht'.1 ht hlt)
  · exact lt_irrefl _ h

lemma isoformat_le_iff {t t' : ℤ} (ht : ValidInstant t) (ht' : ValidInstant t') :
    isoformat t ≤ isoformat t' ↔ t ≤ t' := by
  rw [← not_lt, isoformat_lt_iff ht' ht, not_lt]

/-- **Between the two formats only the days count.**  The blank of the one comes before the `T` of
the other, so within a day every text of SQLite is before every text of Python. -/
theorem sqliteDatetime_le_isoformat_iff {s t : ℤ} (hs : s < 3652059 * 86400) (ht : ValidInstant t) :
    sqliteDatetime s ≤ isoformat t ↔ s / 86400 ≤ t / 86400000000 := by
  have hday : 0 ≤ t / 86400000000 ∧ t / 86400000000 < 3652059 := by
    have := ht.1
    have := ht.2
    omega
  have hprint := printable_civil hday.1 hday.2
  have hyear : 1 ≤ (civil (t / 86400000000)).year := by
    have := civil_bounds (t / 86400000000)
    omega
  rw [sqliteDatetime, isoformat]
  by_cases hnegative : (civil (s / 86400)).year < 0
  · -- a signed year is before every other one
    have hle : s / 86400 ≤ t / 86400000000 := by
      have := civil_bounds (s / 86400)
      omega
    refine iff_of_true (le_of_lt ?_) hle
    obtain ⟨n, rest, hfirst⟩ := datePart_cons (civil (t / 86400000000))
    rw [if_pos hnegative, hfirst, List.cons_append, List.cons_append, List.cons_lt_cons_iff]
    exact Or.inl (dash_lt_digit n)
  · rw [if_neg hnegative]
    have hcompare : datePart (civil (s / 86400)) ++ ' ' :: clockPart (s % 86400).toNat ≤
        datePart (civil (t / 86400000000)) ++
          ('T' :: clockPart (t % 86400000000 / 1000000).toNat ++
            (fractionPart (t % 1000000).toNat ++ "+00:00".toList)) ↔
        ¬ datePart (civil (t / 86400000000)) < datePart (civil (s / 86400)) := by
      rw [← not_lt, append_lt_append_iff (by simp), List.cons_append, List.cons_lt_cons_iff]
      simp
    rw [hcompare]
    rcases lt_trichotomy (s / 86400) (t / 86400000000) with hlt | heq | hlt
    · exact iff_of_true (datePart_lt hprint (not_lt.mp hnegative) (civil_lt hlt)).asymm hlt.le
    · rw [heq]
      exact iff_of_true (lt_irrefl _) le_rfl
    · refine iff_of_false (not_not.mpr ?_) (not_le.mpr hlt)
      exact datePart_lt (printable_civil (by omega) (by omega)) hprint.1 (civil_lt hlt)

end Py
