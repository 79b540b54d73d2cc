import PhotoSync.Service.Scheduling
import Mathlib.Data.List.Find

set_option autoImplicit false

namespace PhotoSync
open List

inductive SyncError where
  | authentication
  | notFound (detail : String)
  | preconditionFailed (detail : String)
  | rateLimited
  | offline (detail : String)
  | unsupported (detail : String)
  | protocol (detail : String)
  | io (detail : String)
deriving DecidableEq

def SyncError.text : SyncError → String
  | .authentication => "authentication failed"
  | .notFound detail => "remote object not found: " ++ detail
  | .preconditionFailed detail => "remote version changed: " ++ detail
  | .rateLimited => "remote service is rate limiting requests"
  | .offline detail => "network is unavailable: " ++ detail
  | .unsupported detail => "provider capability is unsupported: " ++ detail
  | .protocol detail => "invalid provider response: " ++ detail
  | .io detail => "local I/O failed: " ++ detail

def SyncError.cause (error : SyncError) : SyncCause := classifyDetail error.text

inductive TransferError where
  | checksumMismatch (reason : String)
  | sizeMismatch (reason : String)
  | invalidThumbnail (reason : String)
  | sessionFailed (reason : String)
  | leaseLost
  | transport (reason : String)
deriving DecidableEq

namespace TransferError

def text : TransferError → String
  | checksumMismatch reason => "checksum mismatch: " ++ reason
  | sizeMismatch reason => "size mismatch: " ++ reason
  | invalidThumbnail reason => "invalid thumbnail: " ++ reason
  | sessionFailed reason => "upload session failed: " ++ reason
  | leaseLost => "the upload lease was lost"
  | transport reason => "transfer failed: " ++ reason

def toSync (error : TransferError) : SyncError :=
  match error with
  | leaseLost => .unsupported "UPLOAD_LEASE_LOST"
  | checksumMismatch _ | sizeMismatch _ | invalidThumbnail _ | sessionFailed _ => .protocol error.text
  | transport _ => .offline error.text

end TransferError

inductive SdkError where
  | checksumMismatch (expected actual : String)
  | sizeMismatch (expected actual : Nat)
  | uploadRejected (code reason : String)
  | uploadFailed (detail : String)
  | leaseLost
  | transport (detail : String)
  -- any other error, by what map_sdk_error makes of it
  | other (mapped : SyncError)
deriving DecidableEq

def transferError : SdkError → TransferError
  | .checksumMismatch expected actual => .checksumMismatch ("expected " ++ expected ++ ", computed " ++ actual)
  | .sizeMismatch expected actual => .sizeMismatch ("expected " ++ toString expected ++ " bytes, received " ++ toString actual)
  | .uploadRejected code reason =>
    if code = "CHECKSUM_MISMATCH" then .checksumMismatch reason
    else if code = "UPLOAD_SIZE_MISMATCH" then .sizeMismatch reason
    else if code = "INVALID_THUMBNAIL" then .invalidThumbnail reason
    else if code = "UPLOAD_LEASE_LOST" then .leaseLost
    else if code ∈ ["UPLOAD_TIMEOUT", "UPLOAD_INTERRUPTED", "UPLOAD_EXPIRED", "UPLOAD_STATE_CONFLICT"] then .sessionFailed reason
    else .transport (code ++ ": " ++ reason)
  | .uploadFailed detail => .sessionFailed detail
  | .leaseLost => .leaseLost
  | .transport detail => .transport detail
  | .other mapped => .transport mapped.text

-- The codes that transfer_error turns into a variant without their name.
def unnamedCodes : List String :=
  ["CHECKSUM_MISMATCH", "UPLOAD_SIZE_MISMATCH", "INVALID_THUMBNAIL", "UPLOAD_TIMEOUT", "UPLOAD_INTERRUPTED", "UPLOAD_STATE_CONFLICT"]

def phrases : List String :=
  ["network is unavailable", "authentication failed", "HTTP 401", "HTTP 403", "rate limiting", "HTTP 429", "HTTP 503",
    "capability is unsupported", "HTTP 413", "HTTP 404"]

variable {front reason code : String}

theorem prefix_around {middle : Char} {pattern left right : List Char} (absent : middle ∉ pattern)
    (starts : pattern <+: left ++ middle :: right) : pattern <+: left := by
  rcases Nat.le_total pattern.length left.length with short | long
  · exact prefix_of_prefix_length_le starts (prefix_append _ _) short
  · by_cases same : pattern.length = left.length
    · exact prefix_of_prefix_length_le starts (prefix_append _ _) (Nat.le_of_eq same)
    · have reaches : left ++ [middle] <+: pattern := by
        refine prefix_of_prefix_length_le ⟨right, by simp⟩ starts ?_
        rw [length_append, length_singleton]
        omega
      exact absurd (reaches.subset (by simp)) absent

theorem infix_around {middle : Char} {pattern left right : List Char} (absent : middle ∉ pattern) :
    pattern <:+: left ++ middle :: right ↔ pattern <:+: left ∨ pattern <:+: right := by
  constructor
  · intro inside
    induction left with
    | nil =>
      rcases infix_cons_iff.mp inside with starts | later
      · exact .inl (prefix_around absent starts).isInfix
      · exact .inr later
    | cons head tail ih =>
      rcases infix_cons_iff.mp inside with starts | later
      · exact .inl (prefix_around absent starts).isInfix
      · exact (ih later).imp_left infix_cons
  · rintro (within | within)
    · exact within.trans (prefix_append _ _).isInfix
    · exact within.trans ⟨left ++ [middle], [], by simp⟩

def Plain (pattern : String) : Prop := ':' ∉ pattern.toList ∧ pattern.toList.head? ≠ some ' '

theorem mentions_after {pattern : String} (plain : Plain pattern) (front reason : String) :
    mentions (front ++ ": " ++ reason) pattern = (mentions front pattern || mentions reason pattern) := by
  have colon : (front ++ ": " ++ reason).toList = front.toList ++ ':' :: ' ' :: reason.toList := by simp
  have blank : pattern.toList <:+: ' ' :: reason.toList ↔ pattern.toList <:+: reason.toList := by
    rw [infix_cons_iff, or_iff_right_of_imp]
    rintro ⟨rest, shape⟩
    cases found : pattern.toList with
    | nil => exact nil_infix
    | cons =>
      rw [found, cons_append, cons.injEq] at shape
      exact absurd (by rw [found, shape.1]; rfl) plain.2
  rw [Bool.eq_iff_iff]
  simp only [mentions, Bool.or_eq_true, decide_eq_true_eq, colon, infix_around plain.1, blank]

theorem classify_after (quiet : ∀ pattern ∈ serviceCodes.map Prod.fst ++ phrases, mentions front pattern = false) :
    classifyDetail (front ++ ": " ++ reason) = classifyDetail reason := by
  have same : ∀ pattern ∈ serviceCodes.map Prod.fst ++ phrases,
      mentions (front ++ ": " ++ reason) pattern = mentions reason pattern := by
    intro pattern member
    have plain : ∀ pattern ∈ serviceCodes.map Prod.fst ++ phrases, Plain pattern := by unfold Plain; decide +kernel
    rw [mentions_after (plain pattern member), quiet pattern member, Bool.false_or]
  have codes : serviceCodes.find? (fun row => mentions (front ++ ": " ++ reason) row.1) =
      serviceCodes.find? (fun row => mentions reason row.1) :=
    find?_congr (fun row member => same row.1 (mem_append_left _ (mem_map_of_mem member)))
  have texts : ∀ phrase ∈ phrases, mentions (front ++ ": " ++ reason) phrase = mentions reason phrase :=
    fun phrase member => same phrase (mem_append_right _ member)
  simp only [phrases, forall_mem_cons] at texts
  unfold classifyDetail
  simp only [codes, texts]

theorem protocol_cause (label front : String) (shape : "invalid provider response: " ++ label = front ++ ": ")
    (quiet : ∀ pattern ∈ serviceCodes.map Prod.fst ++ phrases, mentions front pattern = false) :
    (SyncError.protocol (label ++ reason)).cause = classifyDetail reason := by
  have text : "invalid provider response: " ++ (label ++ reason) = front ++ ": " ++ reason := by
    rw [← String.append_assoc, shape]
  exact (congrArg classifyDetail text).trans (classify_after quiet)

theorem unnamed_cause (known : code ∈ unnamedCodes) :
    (transferError (.uploadRejected code reason)).toSync.cause = classifyDetail reason := by
  have session : ∀ {failure : SdkError}, transferError failure = .sessionFailed reason →
      (transferError failure).toSync.cause = classifyDetail reason := by
    intro failure failed
    rw [failed]
    exact protocol_cause _ "invalid provider response: upload session failed" (by decide +kernel) (by decide +kernel)
  simp only [unnamedCodes, mem_cons, not_mem_nil, or_false] at known
  rcases known with rfl | rfl | rfl | rfl | rfl | rfl
  · exact protocol_cause _ "invalid provider response: checksum mismatch" (by decide +kernel) (by decide +kernel)
  · exact protocol_cause _ "invalid provider response: size mismatch" (by decide +kernel) (by decide +kernel)
  · exact protocol_cause _ "invalid provider response: invalid thumbnail" (by decide +kernel) (by decide +kernel)
  · exact session (by simp [transferError])
  · exact session (by simp [transferError])
  · exact session (by simp [transferError])

theorem named_cause {cause : SyncCause} (listed : (code, cause) ∈ serviceCodes) (named : code ∉ unnamedCodes)
    (plain : ∀ row ∈ serviceCodes, mentions reason row.1 = false) :
    (transferError (.uploadRejected code reason)).toSync.cause = cause := by
  by_cases lost : code = "UPLOAD_LEASE_LOST"
  · subst lost
    have own : ∀ row ∈ serviceCodes, row.1 = "UPLOAD_LEASE_LOST" → row.2 = .conflict := by decide
    rw [show cause = .conflict from own _ listed rfl, show transferError (.uploadRejected "UPLOAD_LEASE_LOST" reason) = .leaseLost by
      simp [transferError]]
    decide +kernel
  · have carried : transferError (.uploadRejected code reason) = .transport (code ++ ": " ++ reason) := by
      simp only [unnamedCodes, mem_cons, not_mem_nil, or_false, not_or] at named
      have unlisted : code ≠ "UPLOAD_EXPIRED" := by
        rintro rfl
        revert listed
        cases cause <;> decide
      simp [transferError, named, lost, unlisted]
    have first : ∀ row ∈ serviceCodes, row.1 ∉ unnamedCodes → row.1 ≠ "UPLOAD_LEASE_LOST" →
        serviceCodes.find? (fun other => mentions ("network is unavailable: transfer failed: " ++ row.1) other.1) = some row := by
      decide +kernel
    have found : serviceCodes.find? (fun other =>
        mentions ("network is unavailable: transfer failed: " ++ code ++ ": " ++ reason) other.1) = some (code, cause) := by
      rw [← first _ listed named lost]
      refine find?_congr (fun other member => ?_)
      have shape : ∀ row ∈ serviceCodes, Plain row.1 := by unfold Plain; decide +kernel
      rw [mentions_after (shape other member), plain other member, Bool.or_false]
    rw [carried]
    change classifyDetail ("network is unavailable: " ++ ("transfer failed: " ++ (code ++ ": " ++ reason))) = cause
    simp only [← String.append_assoc]
    change classifyDetail ("network is unavailable: transfer failed: " ++ code ++ ": " ++ reason) = cause
    simp only [classifyDetail, found]

-- A rejected upload keeps the cause of its code exactly if the code stays in
-- the text, or the reason alone leads to the same cause.
theorem rejected_upload_keeps_cause_iff (code : String) (cause : SyncCause) (listed : (code, cause) ∈ serviceCodes)
    (reason : String) (plain : ∀ row ∈ serviceCodes, mentions reason row.1 = false) :
    (transferError (.uploadRejected code reason)).toSync.cause = cause ↔ code ∉ unnamedCodes ∨ classifyDetail reason = cause := by
  by_cases known : code ∈ unnamedCodes
  · rw [unnamed_cause known, or_iff_right (not_not_intro known)]
  · exact iff_of_true (named_cause listed known plain) (.inl known)

theorem quota_rejection_keeps_cause : (transferError (.uploadRejected "STORAGE_QUOTA_EXCEEDED" "no room")).toSync.cause = .quota :=
  (rejected_upload_keeps_cause_iff "STORAGE_QUOTA_EXCEEDED" .quota (by decide) "no room" (by decide +kernel)).mpr
    (.inl (by decide))

theorem checksum_rejection_loses_cause :
    ("CHECKSUM_MISMATCH", SyncCause.checksum) ∈ serviceCodes ∧ (∀ row ∈ serviceCodes, mentions "bytes differ" row.1 = false) ∧
      (transferError (.uploadRejected "CHECKSUM_MISMATCH" "bytes differ")).toSync.cause = .unknown := by
  decide +kernel

end PhotoSync
