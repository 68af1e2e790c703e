import Mathlib.Algebra.Order.Field.Power
import Mathlib.Algebra.Order.Field.Rat
import Mathlib.Tactic.Ring
import TagContext.Decimal.Shortest

namespace TagContext.Decimal

-- A decimal read as a double gives a double in its normal form, and the shortest decimal chosen
-- for a double reads back as that double.

theorem roundHalfEven_cases (n d : Nat) :
    (roundHalfEven n d = n / d ∧ 2 * (n % d) ≤ d) ∨ (roundHalfEven n d = n / d + 1 ∧ d ≤ 2 * (n % d)) := by
  unfold roundHalfEven
  dsimp only
  split
  · exact .inl ⟨rfl,by omega⟩
  · split
    · exact .inr ⟨rfl,by omega⟩
    · split
      · exact .inl ⟨rfl,by omega⟩
      · exact .inr ⟨rfl,by omega⟩

theorem pow_le_roundHalfEven {n d : Nat} (j : Nat) (pos : 0 < d) (above : (2 : ℚ) ^ j ≤ n / d) :
    2 ^ j ≤ roundHalfEven n d := by
  have scaled : 2 ^ j * d ≤ n := by
    rw [le_div_iff₀ (by exact_mod_cast pos)] at above
    exact_mod_cast above
  have quotient : 2 ^ j ≤ n / d := (Nat.le_div_iff_mul_le pos).mpr scaled
  rcases roundHalfEven_cases n d with ⟨rounded,-⟩ | ⟨rounded,-⟩ <;> omega

theorem roundHalfEven_le_pow {n d : Nat} (j : Nat) (pos : 0 < d) (below : (n : ℚ) / d < 2 ^ j) :
    roundHalfEven n d ≤ 2 ^ j := by
  have scaled : n < 2 ^ j * d := by
    rw [div_lt_iff₀ (by exact_mod_cast pos)] at below
    exact_mod_cast below
  have quotient : n / d < 2 ^ j := (Nat.div_lt_iff_lt_mul pos).mpr scaled
  rcases roundHalfEven_cases n d with ⟨rounded,-⟩ | ⟨rounded,-⟩ <;> omega

theorem powTwoLe_iff {k : Int} {n d : Nat} (pos : 0 < d) : powTwoLe k n d = true ↔ (2 : ℚ) ^ k ≤ n / d := by
  have pos' : (0 : ℚ) < d := by exact_mod_cast pos
  unfold powTwoLe
  split
  · next nonneg =>
    obtain ⟨j,rfl⟩ := Int.eq_ofNat_of_zero_le nonneg
    rw [decide_eq_true_iff,zpow_natCast,le_div_iff₀ pos',Int.toNat_natCast,Nat.pow_eq]
    exact_mod_cast Iff.rfl
  · next neg =>
    obtain ⟨j,rfl⟩ := Int.exists_eq_neg_ofNat (by omega : k ≤ 0)
    rw [decide_eq_true_iff,zpow_neg,zpow_natCast,neg_neg,Int.toNat_natCast,Nat.pow_eq,inv_eq_one_div,
      div_le_div_iff₀ (pow_pos two_pos j) pos',one_mul]
    exact_mod_cast Iff.rfl

theorem log2Ratio_spec {n d : Nat} (hn : 0 < n) (hd : 0 < d) :
    (2 : ℚ) ^ log2Ratio n d ≤ n / d ∧ (n : ℚ) / d < 2 ^ (log2Ratio n d + 1) := by
  have nLow : (2 : ℚ) ^ n.log2 ≤ n := by exact_mod_cast Nat.log2_self_le hn.ne'
  have nHigh : (n : ℚ) < 2 ^ (n.log2 + 1) := by exact_mod_cast Nat.lt_log2_self
  have dLow : (2 : ℚ) ^ d.log2 ≤ d := by exact_mod_cast Nat.log2_self_le hd.ne'
  have dHigh : (d : ℚ) < 2 ^ (d.log2 + 1) := by exact_mod_cast Nat.lt_log2_self
  have lower : (2 : ℚ) ^ ((n.log2 : Int) - d.log2 - 1) ≤ n / d := by
    calc (2 : ℚ) ^ ((n.log2 : Int) - d.log2 - 1) = 2 ^ n.log2 / 2 ^ (d.log2 + 1) := by
          rw [sub_sub,zpow_sub₀ two_ne_zero]
          norm_cast
      _ ≤ n / d := div_le_div₀ (Nat.cast_nonneg n) nLow (by exact_mod_cast hd) dHigh.le
  have upper : (n : ℚ) / d < 2 ^ ((n.log2 : Int) - d.log2 + 1) := by
    calc (n : ℚ) / d < 2 ^ (n.log2 + 1) / 2 ^ d.log2 :=
          div_lt_div₀ nHigh dLow (pow_pos two_pos _).le (pow_pos two_pos _)
      _ = 2 ^ ((n.log2 : Int) - d.log2 + 1) := by
          rw [sub_add_eq_add_sub,zpow_sub₀ two_ne_zero]
          norm_cast
  unfold log2Ratio
  dsimp only
  split
  · next exact => exact ⟨(powTwoLe_iff hd).mp exact,upper⟩
  · next short =>
    refine ⟨lower,?_⟩
    rw [sub_add_cancel]
    exact lt_of_not_ge (mt (powTwoLe_iff hd).mpr short)

-- `toBinary?` in two steps: the quotient rounded at exponent `q`, then the carry into the next
-- exponent when the rounding reached `2 ^ 53`.
def roundAt (n d : Nat) (q : Int) : Nat :=
  if 0 ≤ q then roundHalfEven n (d * Nat.pow 2 q.toNat) else roundHalfEven (n * Nat.pow 2 (-q).toNat) d

def carry (m : Nat) (q : Int) : Option Binary :=
  let (m, q) := if m = mantissaLimit then (mantissaLimit / 2, q + 1) else (m, q)
  if 971 < q then none else some ⟨m, q⟩

theorem toBinary?_eq (x : Dec) : x.toBinary? =
    if x.num = 0 then some ⟨0, -1074⟩
    else carry (roundAt x.num x.den (max (log2Ratio x.num x.den - 52) (-1074)))
      (max (log2Ratio x.num x.den - 52) (-1074)) := by
  unfold Dec.toBinary? carry roundAt
  rfl

theorem roundAt_eq (n d : Nat) (q : Int) (pos : 0 < d) :
    ∃ a b, 0 < b ∧ roundAt n d q = roundHalfEven a b ∧ (a : ℚ) / b = n / d / 2 ^ q := by
  unfold roundAt
  split
  · next nonneg =>
    obtain ⟨j,rfl⟩ := Int.eq_ofNat_of_zero_le nonneg
    refine ⟨n,d * Nat.pow 2 j,Nat.mul_pos pos (Nat.pow_pos two_pos),by rw [Int.toNat_natCast],?_⟩
    push_cast [Nat.pow_eq,zpow_natCast]
    rw [div_div]
  · next neg =>
    obtain ⟨j,rfl⟩ := Int.exists_eq_neg_ofNat (by omega : q ≤ 0)
    refine ⟨n * Nat.pow 2 j,d,pos,by rw [neg_neg,Int.toNat_natCast],?_⟩
    push_cast [Nat.pow_eq]
    rw [zpow_neg,zpow_natCast,div_inv_eq_mul,mul_div_right_comm]

theorem pow_le_roundAt {n d : Nat} {q : Int} (j : Nat) (pos : 0 < d) (above : (2 : ℚ) ^ j ≤ n / d / 2 ^ q) :
    2 ^ j ≤ roundAt n d q := by
  obtain ⟨a,b,positive,rounded,value⟩ := roundAt_eq n d q pos
  rw [rounded]
  exact pow_le_roundHalfEven j positive (value ▸ above)

theorem roundAt_le_pow {n d : Nat} {q : Int} (j : Nat) (pos : 0 < d) (below : (n : ℚ) / d / 2 ^ q < 2 ^ j) :
    roundAt n d q ≤ 2 ^ j := by
  obtain ⟨a,b,positive,rounded,value⟩ := roundAt_eq n d q pos
  rw [rounded]
  exact roundHalfEven_le_pow j positive (value ▸ below)

-- A finite non-negative double in its one form `m × 2 ^ q`.
structure Binary.Normal (b : Binary) : Prop where
  lt : b.m < 2 ^ 53
  norm : 2 ^ 52 ≤ b.m ∨ b.q = -1074
  low : -1074 ≤ b.q
  high : b.q ≤ 971

theorem carry_normal {m : Nat} {q : Int} {b : Binary} (le : m ≤ 2 ^ 53)
    (norm : 2 ^ 52 ≤ m ∨ (q = -1074 ∧ m < 2 ^ 53)) (low : -1074 ≤ q) (found : carry m q = some b) :
    b.Normal := by
  have limit : mantissaLimit = 2 ^ 53 := Nat.pow_eq
  unfold carry at found
  rw [limit] at found
  by_cases top : m = 2 ^ 53
  · -- the rounding reached `2 ^ 53`: half of it, one exponent up
    rw [if_pos top] at found
    dsimp only at found
    split at found
    · cases found
    · next fits =>
      cases found
      constructor <;> dsimp only <;> omega
  · rw [if_neg top] at found
    dsimp only at found
    split at found
    · cases found
    · next fits =>
      cases found
      constructor <;> dsimp only <;> omega

theorem toBinary?_normal {x : Dec} {b : Binary} (found : x.toBinary? = some b) : b.Normal := by
  rw [toBinary?_eq] at found
  split at found
  · cases found
    exact ⟨by decide,.inr rfl,le_refl _,by decide⟩
  · next nonzero =>
    have hn : 0 < x.num := Nat.pos_of_ne_zero nonzero
    have hd : 0 < x.den := Nat.pow_pos (by decide)
    obtain ⟨above,below⟩ := log2Ratio_spec hn hd
    generalize log2Ratio x.num x.den = k at above below found
    -- at exponent `q` the quotient lies in `[2 ^ (k - q), 2 ^ (k + 1 - q))`
    have scaledAbove : ∀ q : Int, (2 : ℚ) ^ (k - q) ≤ x.num / x.den / 2 ^ q := fun q => by
      rw [zpow_sub₀ two_ne_zero]
      exact div_le_div_of_nonneg_right above (zpow_pos two_pos q).le
    have scaledBelow : ∀ q : Int, (x.num : ℚ) / x.den / 2 ^ q < 2 ^ (k + 1 - q) := fun q => by
      rw [zpow_sub₀ two_ne_zero]
      exact div_lt_div_of_pos_right below (zpow_pos two_pos q)
    rcases lt_or_ge (k - 52) (-1074) with tiny | normal
    · rw [max_eq_right tiny.le] at found
      have small : roundAt x.num x.den (-1074) ≤ 2 ^ 52 := by
        apply roundAt_le_pow 52 hd
        calc _ < (2 : ℚ) ^ (k + 1 - -1074) := scaledBelow (-1074)
          _ ≤ 2 ^ ((52 : Nat) : Int) := zpow_le_zpow_right₀ one_le_two (by omega)
          _ = 2 ^ 52 := zpow_natCast 2 52
      exact carry_normal (by omega) (.inr ⟨rfl,by omega⟩) (le_refl _) found
    · rw [max_eq_left normal] at found
      have atLeast : 2 ^ 52 ≤ roundAt x.num x.den (k - 52) := by
        apply pow_le_roundAt 52 hd
        calc (2 : ℚ) ^ 52 = 2 ^ (k - (k - 52)) := by rw [sub_sub_cancel]; exact (zpow_natCast 2 52).symm
          _ ≤ _ := scaledAbove (k - 52)
      have atMost : roundAt x.num x.den (k - 52) ≤ 2 ^ 53 := by
        apply roundAt_le_pow 53 hd
        calc _ < (2 : ℚ) ^ (k + 1 - (k - 52)) := scaledBelow (k - 52)
          _ = 2 ^ 53 := by rw [show k + 1 - (k - 52) = ((53 : Nat) : Int) by omega,zpow_natCast]
      exact carry_normal atMost (.inl atLeast) normal found

example : Dec.toBinary? ⟨1, 0⟩ = some ⟨Nat.pow 2 52, -52⟩ := by decide +kernel

example : Dec.toBinary? ⟨1, -324⟩ = some ⟨0, -1074⟩ := by decide +kernel

example : Dec.toBinary? ⟨1, 309⟩ = none := by decide +kernel

theorem cmpScaled_exact (x : Binary) (c : Nat) :
    cmpScaled x.exact.digits x.exact.exp c (x.q - 2) =
      compare (4 * x.m * (Nat.pow 2 (x.q - 2).toNat * Nat.pow 10 (-x.q).toNat))
        (c * (Nat.pow 2 (x.q - 2).toNat * Nat.pow 10 (-x.q).toNat)) := by
  unfold cmpScaled Binary.exact
  split
  · next nonneg =>
    have up : x.q.toNat + (-(x.q - 2)).toNat = 2 + (x.q - 2).toNat := by omega
    have unscaled : (-x.q).toNat = 0 := by omega
    simp only [Int.toNat_zero,neg_zero,unscaled,Nat.pow_eq,pow_zero,mul_one]
    rw [Nat.mul_assoc,← Nat.pow_add,up,Nat.pow_add]
    congr 1
    ring
  · next neg =>
    have down : (-(x.q - 2)).toNat = 2 + (-x.q).toNat := by omega
    have unscaled : (x.q - 2).toNat = 0 := by omega
    have flat : x.q.toNat = 0 := by omega
    simp only [flat,down,unscaled,Nat.pow_eq,pow_zero,mul_one,one_mul]
    congr 1
    rw [show (10 : Nat) = 2 * 5 from rfl,Nat.mul_pow,Nat.pow_add]
    ring

theorem exact_readsBack {x : Binary} (nonzero : x.m ≠ 0) : x.readsBack x.exact = true := by
  have factor : 0 < Nat.pow 2 (x.q - 2).toNat * Nat.pow 10 (-x.q).toNat :=
    Nat.mul_pos (Nat.pow_pos two_pos) (Nat.pow_pos (by decide))
  have below : ∀ c, c < 4 * x.m → cmpScaled x.exact.digits x.exact.exp c (x.q - 2) = .gt := fun c lt => by
    rw [cmpScaled_exact,compare_gt_iff_gt]
    exact Nat.mul_lt_mul_of_pos_right lt factor
  have above : cmpScaled x.exact.digits x.exact.exp (4 * x.m + 2) (x.q - 2) = .lt := by
    rw [cmpScaled_exact,compare_lt_iff_lt]
    exact Nat.mul_lt_mul_of_pos_right (by omega) factor
  unfold Binary.readsBack
  dsimp only
  rw [above,below]
  · simp
  · split <;> omega

theorem onGrid_readsBack {x : Binary} {t : Int} {d : Dec} (found : x.onGrid t = some d) :
    x.readsBack d = true := by
  unfold Binary.onGrid at found
  dsimp only at found
  split at found
  · next down up =>
    cases found
    split
    · exact up
    · exact down
  · next down _ =>
    cases found
    exact down
  · next _ up =>
    cases found
    exact up
  · cases found

theorem shortest_readsBack (x : Binary) : x.readsBack x.shortest = true := by
  unfold Binary.shortest
  split
  · next zero =>
    have positive : 0 < 2 * 2 ^ (x.q - 2).toNat := Nat.mul_pos two_pos (Nat.pow_pos two_pos)
    simp [Binary.readsBack,cmpScaled,zero,compare_lt_iff_lt.mpr positive]
  · next nonzero =>
    dsimp only
    split
    · next d found =>
      obtain ⟨i,-,onGrid⟩ := List.exists_of_findSome?_eq_some found
      exact onGrid_readsBack onGrid
    · exact exact_readsBack nonzero

example : (Dec.toBinary? ⟨1, -1⟩).map Binary.shortest = some ⟨1, -1⟩ := by decide +kernel

example : (Dec.toBinary? ⟨1, 23⟩).map Binary.shortest = some ⟨10, 22⟩ := by decide +kernel

end TagContext.Decimal
