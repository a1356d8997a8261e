import YouSpinMe.RotationOutcome
import YouSpinMe.Views

namespace YouSpinMe.ExpiryMismatch
open RequestProgram Effects Validation Rotation RotationTraces RotationOutcome Scheduling Views Pages Text Jiff Crd

-- Instants that lie before the epoch and not at a midnight: their quotient is
-- rounded up to the day after theirs.
def RoundedUp (t : Timestamp) : Prop := t.nanos < 0 ∧ t.nanos % 86400000000000 ≠ 0

instance (t : Timestamp) : Decidable (RoundedUp t) := inferInstanceAs (Decidable (_ ∧ _))

-- One of the two is rounded up, from the day of the other or from the day before it.
def Lags (a b : Timestamp) : Prop :=
  RoundedUp a ∧ ¬RoundedUp b ∧ (a.utcDate.day = b.utcDate.day ∨ a.utcDate.day + 1 = b.utcDate.day)

def Skewed (probed manual : Option Timestamp) : Prop :=
  ∃ p m, probed = some p ∧ manual = some m ∧ (Lags p m ∨ Lags m p)

theorem quotient_day (t : Timestamp) :
    t.asSecond.tdiv 86400 = t.utcDate.day + if RoundedUp t then 1 else 0 := by
  have sign : ∀ n : Int, 0 < n → n.sign = 1 := fun n => Int.sign_eq_one_of_pos
  unfold Timestamp.asSecond Timestamp.utcDate RoundedUp
  rw [Int.tdiv_eq_ediv,Int.tdiv_eq_ediv,sign _ (by decide),sign _ (by decide)]
  simp only [Int.dvd_iff_emod_eq_zero]
  split_ifs <;> omega

theorem quotients_agree (p m : Timestamp) :
    (p.asSecond.tdiv 86400 = m.asSecond.tdiv 86400 ↔ p.utcDate = m.utcDate) ↔ ¬(Lags p m ∨ Lags m p) := by
  have dates : p.utcDate = m.utcDate ↔ p.utcDate.day = m.utcDate.day := by
    rw [← Date.mk.injEq]
  rw [quotient_day,quotient_day,dates,Lags,Lags]
  by_cases first : RoundedUp p
  · by_cases second : RoundedUp m
    · simp [first,second]
    · simp [first,second]
      omega
  · by_cases second : RoundedUp m
    · simp [first,second]
      omega
    · simp [first,second]

theorem mismatch_exact [Format] (probed manual : Option Timestamp) :
    expiryMismatch probed manual = datesDiffer probed manual ↔ ¬Skewed probed manual := by
  cases probed with
  | none => simp [expiryMismatch,datesDiffer,Skewed]
  | some p =>
    cases manual with
    | none => simp [expiryMismatch,datesDiffer,Skewed]
    | some m =>
      have skewed : Skewed (some p) (some m) ↔ Lags p m ∨ Lags m p := by simp [Skewed]
      have shown : fmtDate p = fmtDate m ↔ p.utcDate = m.utcDate := Format.dateText_injective.eq_iff
      rw [skewed,← quotients_agree p m,Bool.eq_iff_iff]
      simp only [expiryMismatch,datesDiffer,bne_iff_ne,ne_eq,shown]
      exact not_iff_not

theorem saved_update (rest : SubmitTrace name key req probe submission (.ok o))
    (asked : ⟨.updateStatus other mutate,answer⟩ ∈ submission) :
    ∃ written now, mutate = mutationOf key req probe written now ∧ o = outcomeFor req probe written now := by
  cases rest with
  | @saved now written updated all =>
    simp [writeEvent] at asked
    exact ⟨written,now,asked.1.2,rfl⟩

-- What a completed run returned, and what its status update stores.
theorem completed_parts [UrlCrate] (path : RotateTrace allowed name req trace (.ok o)) (completed : o.completed = true)
    (asked : ⟨.updateStatus other mutate,answer⟩ ∈ trace) :
    ∃ now, o.expiryMismatch = expiryMismatch ((probeStatus now o.probe).bind ProbeStatus.expiresAt) req.manualExpiresAt ∧
      ∀ status, (mutate status).probe = probeStatus now o.probe ∧
        (mutate status).manualExpiresAt = req.manualExpiresAt := by
  cases path with
  | @submitted found key checks probe submission _ passed check rest =>
    have quiet : ⟨.updateStatus other mutate,answer⟩ ∉ checks := by cases check <;> simp
    have inside : ⟨.updateStatus other mutate,answer⟩ ∈ submission := by simpa [quiet] using asked
    obtain ⟨written,now,rfl,rfl⟩ := saved_update rest inside
    refine ⟨now,rfl,?_⟩
    intro status
    have all : allWritten (written.map outcomeOf) = true := completed
    rw [mutationOf,submitMutation,if_pos all]
    exact ⟨rfl,rfl⟩

theorem mismatch_warnings [UrlCrate] [Format]
    (run : Returns (Rotation.rotate allowed name req) trace (.ok o)) (completed : o.completed = true)
    (probed : o.probe = .checked result) (asked : ⟨.updateStatus name mutate,answer⟩ ∈ trace) (before : ApiKey)
    (thresholds : Thresholds) (seen : Timestamp) :
    o.expiryMismatch = (KeyDetail.new (before.updateStatus mutate) thresholds seen).expiryMismatch ↔
      ¬Skewed result.expiresAt req.manualExpiresAt := by
  obtain ⟨now,returned,stored⟩ := completed_parts (rotate_returns.mp run) completed asked
  obtain ⟨probe,manual⟩ := stored (before.status.getD {})
  have shown : (KeyDetail.new (before.updateStatus mutate) thresholds seen).expiryMismatch =
      datesDiffer ((mutate (before.status.getD {})).probe.bind ProbeStatus.expiresAt)
        (mutate (before.status.getD {})).manualExpiresAt := rfl
  rw [shown,returned,probe,manual,probed]
  exact mismatch_exact result.expiresAt req.manualExpiresAt

def verifiedKey : Named "pair" :=
  ⟨{metadata := {name := some "pair"},spec := {targets := pairTargets,provider := .github}},rfl⟩

def verifiedRequest (manual : Option Timestamp) : RotateRequest := ⟨"v",⟨"sub","ada"⟩,manual,false⟩

theorem verifiedKey_passes (manual : Option Timestamp) :
    @gate noUrls .allowAll "pair" (verifiedRequest manual) (some verifiedKey) = .ok verifiedKey.key := by
  let _ := noUrls
  have filled : trim (verifiedRequest manual).value ≠ "" := (by decide : trim "v" ≠ "")
  exact gate_ok.mpr ⟨verifiedKey,rfl,rfl,filled,by decide,by decide⟩

def verifiedUpdate (result : ProbeResult) (manual : Option Timestamp) : ApiKeyStatus → ApiKeyStatus :=
  mutationOf verifiedKey.key (verifiedRequest manual) (.checked result) pairCompleted .epoch

def verifiedOutcome (result : ProbeResult) (manual : Option Timestamp) : RotateOutcome :=
  outcomeFor (verifiedRequest manual) (.checked result) pairCompleted .epoch

theorem verified_run (result : ProbeResult) (manual : Option Timestamp) : ∃ trace,
    ⟨.updateStatus "pair" (verifiedUpdate result manual),.ok verifiedKey⟩ ∈ trace ∧
    Returns (@rotate noUrls .allowAll "pair" (verifiedRequest manual)) trace (.ok (verifiedOutcome result manual)) := by
  let _ := noUrls
  have path := @SubmitTrace.saved "pair" verifiedKey.key (verifiedRequest manual) (.checked result) .epoch
    pairCompleted verifiedKey rfl
  have consults : Consults verifiedKey.key (verifiedRequest manual) := ⟨rfl,by decide⟩
  exact ⟨_,by simp [verifiedUpdate],rotate_returns.mpr (.submitted (verifiedKey_passes manual) (.checked consults) path)⟩

-- Noon of the last day before the epoch.
def lastNoon : Timestamp := ⟨-43200000000000,by decide,by decide⟩

theorem late_noted : ¬Skewed (some .epoch) (some .epoch) ∧
    ((verifiedOutcome ⟨some .epoch,none⟩ (some .epoch)).expiryMismatch =
      (@KeyDetail.new noUrls epochFormat (verifiedKey.key.updateStatus (verifiedUpdate ⟨some .epoch,none⟩ (some .epoch)))
        .default .epoch).expiryMismatch ↔ ¬Skewed (some .epoch) (some .epoch)) := by
  let _ := noUrls
  let _ := epochFormat
  obtain ⟨trace,asked,run⟩ := verified_run ⟨some .epoch,none⟩ (some .epoch)
  refine ⟨?_,mismatch_warnings run rfl rfl asked verifiedKey.key .default .epoch⟩
  simp [Skewed,Lags,RoundedUp,Timestamp.epoch]

theorem noon_unnoticed : ∃ trace,
    ⟨.updateStatus "pair" (verifiedUpdate ⟨some lastNoon,none⟩ (some .epoch)),.ok verifiedKey⟩ ∈ trace ∧
    Returns (@rotate noUrls .allowAll "pair" (verifiedRequest (some .epoch))) trace
      (.ok (verifiedOutcome ⟨some lastNoon,none⟩ (some .epoch))) ∧
    (verifiedOutcome ⟨some lastNoon,none⟩ (some .epoch)).completed = true ∧
    (verifiedOutcome ⟨some lastNoon,none⟩ (some .epoch)).expiryMismatch = false ∧
    (@KeyDetail.new noUrls epochFormat (verifiedKey.key.updateStatus (verifiedUpdate ⟨some lastNoon,none⟩ (some .epoch)))
      .default .epoch).expiryMismatch = true := by
  let _ := noUrls
  let _ := epochFormat
  obtain ⟨trace,asked,run⟩ := verified_run ⟨some lastNoon,none⟩ (some .epoch)
  refine ⟨trace,asked,run,rfl,by decide,?_⟩
  have shown := Format.dateText_injective.ne (by decide : lastNoon.utcDate ≠ Timestamp.epoch.utcDate)
  exact bne_iff_ne.mpr shown

end YouSpinMe.ExpiryMismatch
