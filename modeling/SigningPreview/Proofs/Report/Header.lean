import SigningPreview.Proofs.Lists
import SigningPreview.Proofs.Wire.RoundTrip
import SigningPreview.Report

/-! # The risk header

What a report says before its sections is decided by the envelope of a response: its action, its
warnings and its failure. First what each part of a header says of the response it was made for;
then every run, strict or lenient and of either chain, is seen to give its report that header
(`Outcome.header_eq`). So the predicted effects have no part in it, and since each flag asks whether
a warning of some sort is there, more warnings can only raise it (`Outcome.ofText_header`). -/
namespace SigningPreview

variable {α : Type} {c : Chain}

/-! ## The parts of a header -/

/-- What a report says before its sections. -/
structure Header where
  risk : Risk
  needsConfirmation : Bool
  siteFlagged : Bool
  failure : String

def Report.header (p : Report) : Header :=
  ⟨p.risk, p.needsConfirmation, p.siteFlagged, p.failure⟩

/-- The header that a response calls for. -/
def Header.ofResponse (r : Response α) : Header :=
  let risk := Risk.ofResponse r
  ⟨risk, risk.needsConfirmation, risk.siteFlagged, r.failureText⟩

theorem Warning.isCritical_iff {w : Warning} : w.isCritical = true ↔ w.severity = .critical :=
  decide_eq_true_iff

theorem Warning.concernsSite_iff {w : Warning} :
    w.concernsSite = true ↔ w.kind ∈ siteWarningKinds :=
  List.contains_iff_mem

namespace Risk

theorem hasCritical_iff {r : Response α} :
    (ofResponse r).hasCritical = true ↔ ∃ w ∈ r.warnings, w.severity = .critical := by
  simp only [ofResponse, List.any_eq_true, Warning.isCritical_iff]

theorem needsConfirmation_iff {r : Response α} :
    (ofResponse r).needsConfirmation = true ↔
      r.action = .block ∨ ∃ w ∈ r.warnings, w.severity = .critical := by
  rw [needsConfirmation, Bool.or_eq_true, decide_eq_true_iff, hasCritical_iff]
  rfl

theorem siteFlagged_iff {r : Response α} :
    (ofResponse r).siteFlagged = true ↔ ∃ w ∈ r.warnings, w.kind ∈ siteWarningKinds := by
  simp only [siteFlagged, ofResponse, List.any_eq_true, Warning.concernsSite_iff]

end Risk

/-- A failure is never shown as nothing. -/
theorem Failure.text_ne_empty (f : Failure) : f.text ≠ "" := by
  rw [text]
  split
  · decide
  · split
    · decide
    · assumption

theorem Failure.text_of_reverted {f : Failure} (h : f.kind = "TRANSACTION_REVERTED") :
    f.text = "TRANSACTION_REVERTED" := if_pos h

theorem Response.failureText_eq_empty_iff {r : Response α} :
    r.failureText = "" ↔ r.failure = none := by
  unfold failureText
  cases h : r.failure with
  | none => simp
  | some f => simp [f.text_ne_empty]

namespace Header

/-- A header tells of a response what its envelope says, no more and no less. -/
structure Tells (h : Header) (r : Response α) : Prop where
  action : h.risk.action = r.action
  warnings : h.risk.warnings = r.warnings
  critical : h.risk.hasCritical = true ↔ ∃ w ∈ r.warnings, w.severity = .critical
  confirmation : h.needsConfirmation = true ↔
    r.action = .block ∨ ∃ w ∈ r.warnings, w.severity = .critical
  site : h.siteFlagged = true ↔ ∃ w ∈ r.warnings, w.kind ∈ siteWarningKinds
  failure : h.failure = "" ↔ r.failure = none
  /-- A transaction that reverts is named, whatever the explanation. -/
  reverted : ∀ f, r.failure = some f → f.kind = "TRANSACTION_REVERTED" →
    h.failure = "TRANSACTION_REVERTED"

theorem tells_ofResponse (r : Response α) : (ofResponse r).Tells r where
  action := rfl
  warnings := rfl
  critical := Risk.hasCritical_iff
  confirmation := Risk.needsConfirmation_iff
  site := Risk.siteFlagged_iff
  failure := Response.failureText_eq_empty_iff
  reverted := by
    intro f hf hkind
    change r.failureText = _
    rw [Response.failureText, hf]
    exact Failure.text_of_reverted hkind

/-- Each flag that the first header raises, the second raises too. -/
structure AtMost (h h' : Header) : Prop where
  confirmation : h.needsConfirmation = true → h'.needsConfirmation = true
  site : h.siteFlagged = true → h'.siteFlagged = true

/-- No flag is lowered by warnings that are put in, wherever they stand. -/
theorem ofResponse_atMost {r : Response α} {warnings : List Warning}
    (h : r.warnings.Sublist warnings) : (ofResponse r).AtMost (ofResponse { r with warnings }) := by
  constructor
  · intro raised
    rcases Risk.needsConfirmation_iff.1 raised with block | ⟨w, hw, critical⟩
    · exact Risk.needsConfirmation_iff.2 (.inl block)
    · exact Risk.needsConfirmation_iff.2 (.inr ⟨w, h.subset hw, critical⟩)
  · intro raised
    obtain ⟨w, hw, site⟩ := Risk.siteFlagged_iff.1 raised
    exact Risk.siteFlagged_iff.2 ⟨w, h.subset hw, site⟩

end Header

/-! ## Runs -/

namespace Outcome

variable {r : Response (Record c)} {isStrict : Bool} {o : Outcome}

/-- Every run gives its report the header that the response calls for. -/
theorem header_eq (h : ofResponse isStrict r = .ok o) : o.report.header = .ofResponse r := by
  cases isStrict with
  | false =>
    cases h
    rfl
  | true =>
    obtain ⟨g, -, h⟩ := exists_of_bind_eq_ok h
    cases h
    rfl

/-- Whether there is an outcome is up to the records. -/
theorem exists_outcome_of_warnings (h : ofResponse isStrict r = .ok o) (warnings : List Warning) :
    ∃ o', ofResponse isStrict { r with warnings } = .ok o' := by
  cases isStrict with
  | false => exact ⟨_, rfl⟩
  | true =>
    obtain ⟨g, hg, -⟩ := exists_of_bind_eq_ok h
    change ∃ o', strict { r with warnings } = .ok o'
    rw [strict, hg]
    exact ⟨_, rfl⟩

theorem ofText_eq {text : String} (h : Response.ofText c text = .ok r) :
    ofText c isStrict text = (ofResponse isStrict r).mapError .refused := by
  rw [ofText, h]
  rfl

theorem exists_response_of_ofText {text : String} (h : ofText c isStrict text = .ok o) :
    ∃ r : Response (Record c), Response.ofText c text = .ok r ∧ ofResponse isStrict r = .ok o := by
  cases hr : Response.ofText c text with
  | error fault => rw [ofText, hr] at h; cases h
  | ok r =>
    rw [ofText_eq hr] at h
    cases ho : ofResponse isStrict r with
    | error refusal => rw [ho] at h; cases h
    | ok o' =>
      rw [ho] at h
      cases h
      exact ⟨r, rfl, ho⟩

/-- The header of a report tells what the response says. It is the same for every other run, of
either chain and by either rules, of a response with the same envelope; and a response with more
warnings, which runs as well, has a header in which nothing is lowered. -/
theorem ofText_header {text : String} (h : ofText c isStrict text = .ok o) :
    ∃ r : Response (Record c), Response.ofText c text = .ok r ∧ o.report.header.Tells r ∧
      (∀ (c' : Chain) (effects : List (Record c')) (isStrict' : Bool) (o' : Outcome),
        ofResponse isStrict' { r with effects } = .ok o' →
          o'.report.header = o.report.header) ∧
      ∀ warnings, r.warnings.Sublist warnings →
        ∃ o', ofResponse isStrict { r with warnings } = .ok o' ∧
          o.report.header.AtMost o'.report.header := by
  obtain ⟨r, hr, ho⟩ := exists_response_of_ofText h
  rw [header_eq ho]
  refine ⟨r, hr, Header.tells_ofResponse r, ?_, ?_⟩
  · intro c' effects isStrict' o' ho'
    rw [header_eq ho']
    rfl
  · intro warnings more
    obtain ⟨o', ho'⟩ := exists_outcome_of_warnings ho warnings
    refine ⟨o', ho', ?_⟩
    rw [header_eq ho']
    exact Header.ofResponse_atMost more

/-- A warning of the website between two others, and a failure that explains nothing. -/
def warnedResponse : Response (Record .svm) where
  action := .warn
  warnings :=
    [⟨"PHISHING", .warning, ""⟩, ⟨"NON_ASCII_URL", .warning, "Look twice"⟩,
      ⟨"STAKE_CHANGE", .critical, ""⟩]
  failure := some ⟨"TRANSACTION_REVERTED", ""⟩
  effects := [⟨"Send 1 SOL", .known .solTransfer, .ofPayload (some (.solTransfer
    ⟨"SOL", "Solana", 9, ⟨.minus, 1000000000⟩⟩))⟩]

def warnedText : String := ((Response.codec (Record.codec .svm)).write warnedResponse).compact

theorem ofText_warnedText : Response.ofText .svm warnedText = .ok warnedResponse := by
  refine (Response.restores fun e he => Record.restores ?_).document
  rw [List.mem_singleton.1 he]
  exact trivial

theorem ofText_header_warnedText :
    ∃ o r, ofText .svm true warnedText = .ok o ∧ Response.ofText .svm warnedText = .ok r ∧
      o.report.header.Tells r ∧
      o.report.header = ⟨.ofResponse warnedResponse, true, true, "TRANSACTION_REVERTED"⟩ := by
  obtain ⟨o, ho⟩ : ∃ o, ofResponse true warnedResponse = .ok o := ⟨_, rfl⟩
  have ran : ofText .svm true warnedText = .ok o := by
    rw [ofText_eq ofText_warnedText, ho]
    rfl
  obtain ⟨r, hr, tells, -, -⟩ := ofText_header ran
  refine ⟨o, r, ran, hr, tells, ?_⟩
  rw [header_eq ho]
  rfl

end Outcome

end SigningPreview
