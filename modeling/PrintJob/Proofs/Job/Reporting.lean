import PrintJob.Job.Event
import PrintJob.Proofs.Reason.Decoding

/-! # Reporting

What a notification says about a job. Only a job that is done has an outcome, and only if it failed
do the status bits stand for reasons of a failure. An event tells all of this and nothing more, so
the result code of a job that is not done is lost. -/

namespace PrintJob

/-! ## Codes -/

theorem Progress.isFinal_ofCode_iff (code : Int) : (ofCode code).isFinal = true ↔ code = 3 := by
  constructor
  · intro h
    grind [ofCode, isFinal]
  · rintro rfl
    rfl

theorem Outcome.isFailure_ofCode_iff (code : Int) :
    (ofCode code).isFailure = true ↔ code = -1 ∨ code = -3 := by
  constructor
  · intro h
    grind [ofCode, isFailure]
  · rintro (rfl | rfl) <;> rfl

/-! ## Notifications -/

namespace Notification

/-- The job is done, and its result code is that of an error or of corrupt data. -/
def Fails (notification : Notification) : Prop :=
  notification.stateCode = 3 ∧
    (notification.resultCode = -1 ∨ notification.resultCode = -3)

instance (notification : Notification) : Decidable notification.Fails :=
  inferInstanceAs (Decidable (_ ∧ _))

/-- How the job ended, which is known of a job that is done. -/
def outcome? (notification : Notification) : Option Outcome :=
  if notification.stateCode = 3 then some (.ofCode notification.resultCode) else none

/-- The family of reasons that the status bits belong to: that of failures if the job failed. -/
def family (notification : Notification) : ReasonFamily :=
  if notification.Fails then .failed else .blocked

theorem isSome_outcome?_iff (notification : Notification) :
    notification.outcome?.isSome = true ↔ notification.stateCode = 3 := by
  unfold outcome?
  split <;> simp_all

theorem reasonFamily_outcome? (notification : Notification) :
    JobEvent.reasonFamily notification.outcome? = notification.family := by
  unfold outcome? family Fails
  by_cases hs : notification.stateCode = 3
  · simp only [hs, if_true, true_and, ← Outcome.isFailure_ofCode_iff]
    rfl
  · simp [hs, JobEvent.reasonFamily]

/-- The result code counts exactly for a job that is done. -/
theorem outcome?_with_resultCode_iff (notification : Notification) :
    (∀ resultCode, { notification with resultCode }.outcome? = notification.outcome?) ↔
      notification.stateCode ≠ 3 := by
  constructor
  · intro h hs
    have hcodes : { notification with resultCode := 0 }.outcome? =
        { notification with resultCode := -2 }.outcome? := (h 0).trans (h (-2)).symm
    simp only [outcome?, hs, if_true] at hcodes
    exact absurd hcodes (by decide)
  · intro hs resultCode
    simp [outcome?, hs]

end Notification

namespace StatusWord

/-- Decoding only a word that has a set bit below the bound is decoding it by the family. -/
theorem decode_if_pos (word : StatusWord) (family : ReasonFamily) :
    (if 0 < countBelow word family.bound then
      decode word family.bound family.table (countBelow word family.bound)
    else .empty) = decodeFamily word family := by
  unfold decodeFamily
  by_cases h : countBelow word family.bound = 0
  · simp [h]
  · simp [h, Nat.pos_of_ne_zero h]

end StatusWord

namespace JobEvent

theorem ofNotification_eq (job : JobId) (notification : Notification) :
    ofNotification job notification =
      { job
        progress := .ofCode notification.stateCode
        outcome := notification.outcome?
        symbols := notification.statusBits.decodeFamily notification.family
        certificate := notification.certificate } := by
  have ho : (if (Progress.ofCode notification.stateCode).isFinal = true then
      some (Outcome.ofCode notification.resultCode) else none) = notification.outcome? := by
    simp only [Progress.isFinal_ofCode_iff]
    rfl
  unfold ofNotification
  simp only [ho, Notification.reasonFamily_outcome?, StatusWord.decode_if_pos]

/-- Notifications give the same event if they agree on how far the job has come, on its outcome, on
the status bits of the family and on the certificate, and only then. -/
theorem ofNotification_eq_iff (job : JobId) (notification other : Notification) :
    ofNotification job notification = ofNotification job other ↔
      Progress.ofCode notification.stateCode = Progress.ofCode other.stateCode ∧
      notification.outcome? = other.outcome? ∧
      (∀ index < notification.family.bound,
        notification.statusBits.getLsbD index = other.statusBits.getLsbD index) ∧
      notification.certificate = other.certificate := by
  have hfamily (h : notification.outcome? = other.outcome?) :
      notification.family = other.family := by
    rw [← Notification.reasonFamily_outcome?, ← Notification.reasonFamily_outcome?, h]
  rw [ofNotification_eq, ofNotification_eq, JobEvent.mk.injEq]
  constructor
  · rintro ⟨_, hp, ho, hs, hc⟩
    rw [← hfamily ho] at hs
    exact ⟨hp, ho, StatusWord.decodeFamily_eq_iff.mp hs, hc⟩
  · rintro ⟨hp, ho, hb, hc⟩
    rw [← hfamily ho]
    exact ⟨rfl, hp, ho, StatusWord.decodeFamily_eq_iff.mpr hb, hc⟩

/-- An event says what the codes say. It has an outcome exactly if the job is done, its symbols are
decoded by the family of the codes, the name of the job and the certificate are handed on, and the
result code is passed over exactly if the job is not done. -/
theorem ofNotification_reads_codes (job : JobId) (notification : Notification) :
    ((ofNotification job notification).outcome.isSome = true ↔ notification.stateCode = 3) ∧
      (ofNotification job notification).symbols =
        notification.statusBits.decodeFamily notification.family ∧
      (ofNotification job notification).job = job ∧
      (ofNotification job notification).certificate = notification.certificate ∧
      ((∀ resultCode, ofNotification job { notification with resultCode } =
        ofNotification job notification) ↔ notification.stateCode ≠ 3) := by
  refine ⟨?_, ?_, rfl, rfl, ?_⟩
  · rw [ofNotification_eq]
    exact notification.isSome_outcome?_iff
  · rw [ofNotification_eq]
  · rw [← notification.outcome?_with_resultCode_iff]
    apply forall_congr'
    intro resultCode
    rw [ofNotification_eq_iff]
    simp

/-- The result code left over from an earlier job does not turn a reason for waiting into one for a
failure. -/
example :
    (ofNotification ⟨3⟩ { stateCode := 2, resultCode := -1, statusBits := 0x10 }).symbols =
        ⟨["marker-ink-empty"]⟩ ∧
      (ofNotification ⟨3⟩ { stateCode := 3, resultCode := -1, statusBits := 0x10 }).symbols =
        ⟨["unsupported-document-format"]⟩ := by decide +kernel

end JobEvent

end PrintJob
