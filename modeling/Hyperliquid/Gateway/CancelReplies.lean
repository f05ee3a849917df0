import Hyperliquid.Base.JsonText
import Hyperliquid.Gateway.Transports

/-!
# Replies to cancelled orders over both transports

REST visits the parsed statuses of a reply and then reports the first one; WebSocket compares
the text of the statuses with that of one success. This module says for which texts of an
array of statuses the two agree.
-/

namespace Hyperliquid.Gateway

open Hyperliquid.Base Hyperliquid.Base.CoreJson Hyperliquid.Base.JsonText
open Hyperliquid.Oms Hyperliquid.Web Hyperliquid.Protocol.Json

/-- A status of a cancel reply as it is spelled: a string, or an object with an error. -/
inductive CancelStatus where
  | text (literal : Literal)
  | error (beforeKey afterKey beforeText afterText : Blank) (literal : Literal)

namespace CancelStatus

def chars : CancelStatus → List Char
  | text literal => literal.chars
  | error beforeKey afterKey beforeText afterText literal =>
    '\x7b' :: beforeKey.chars ++ "\"error\"".toList ++ afterKey.chars ++ ':' :: beforeText.chars ++
      literal.chars ++ afterText.chars ++ ['\x7d']

/-- The parsed status. -/
def tree (unescape : Unescape) : CancelStatus → Value
  | text literal => .string (unescape.text literal)
  | error _ _ _ _ literal => .object [("error", .string (unescape.text literal))]

/-- A status with an error that is not empty. -/
def Reports : CancelStatus → Prop
  | text _ => False
  | error _ _ _ _ literal => literal.content ≠ []

end CancelStatus

/-- The statuses of a cancel reply as they are spelled. -/
abbrev CancelStatuses := ArrayText CancelStatus

namespace Transports

variable (transports : Transports) (order : KnownOrder transports) (unescape : Unescape)

/-- What `cancel_order_ack` does with the statuses of a 2xx response. -/
def cancelOverRest (status : Web.Status) (version : UInt32) (statuses : CancelStatuses) :
    Proc AckEffect Exception Unit :=
  OrderEntry.cancelOrderAck transports.rest
    ⟨.ok (status, .success,
      .ok (statusesReply "cancel" (statuses.tokens.map (CancelStatus.tree unescape))))⟩
    order.userId order.orderId version

/-- What the handler of `ActionCancel` does with the text of the statuses. -/
def cancelOverWebSocket (statuses : CancelStatuses) : Proc AckEffect Exception Unit :=
  WebSocket.actionCancel transports.webSocket
    ⟨transports.replyId order .cancelOrder, String.ofList (statuses.chars CancelStatus.chars)⟩

/-- A handler reports that a cancel request has failed. -/
def Rejects (handler : Proc AckEffect Exception Unit) : Prop := responses handler.events ≠ []

/-- Every status can be decoded. -/
def Decodable (statuses : CancelStatuses) : Prop :=
  ∀ value ∈ statuses.tokens.map (CancelStatus.tree unescape),
    (transports.decodeCancelItem value).isOk

/-- The first status has an error. -/
def FirstReports (statuses : CancelStatuses) : Prop :=
  ∃ first ∈ statuses.tokens.head?, first.Reports

/-- The statuses are spelled as one success. -/
def SpelledSuccess (statuses : CancelStatuses) : Prop :=
  statuses.chars CancelStatus.chars = WebSocket.successText.toList

private theorem isArrayOfString_iff (tokens : List CancelStatus) :
    isArrayOfString (tokens.map (CancelStatus.tree unescape)) = true ↔
      ∀ token ∈ tokens, ∃ literal, token = .text literal := by
  induction tokens with
  | nil => exact iff_of_true rfl nofun
  | cons token tokens ih =>
    rw [List.map_cons, List.forall_mem_cons, ← ih]
    cases token with
    | text literal => exact (and_iff_right ⟨literal, rfl⟩).symm
    | error _ _ _ _ literal => exact iff_of_false Bool.false_ne_true fun h ↦ nomatch h.1

/-- The first decoded status has an error exactly when the first status does. -/
theorem error_ne_empty_iff {token : CancelStatus} {item : CancelStatusesItem}
    (h : transports.decodeCancelItem (token.tree unescape) = .ok item) :
    item.error ≠ "" ↔ token.Reports := by
  cases token with
  | text literal =>
    rw [transports.decodesCancelText _ item h]
    exact iff_of_false (fun hne ↦ hne rfl) id
  | error _ _ _ _ literal =>
    rw [CancelStatus.tree, transports.decodesCancelError] at h
    rw [← Except.ok.inj h]
    exact not_congr (unescape.text_eq_empty_iff literal)

/-- Over REST the first status is reported, if every status can be decoded. -/
theorem rejects_cancelOverRest_iff (status : Web.Status) (version : UInt32)
    (statuses : CancelStatuses) :
    Rejects (cancelOverRest transports order unescape status version statuses) ↔
      FirstReports statuses ∧ Decodable transports unescape statuses := by
  rw [Rejects, cancelOverRest, OrderEntry.cancelOrderAck_of_success]
  by_cases hstrings : isArrayOfString (statuses.tokens.map (CancelStatus.tree unescape)) = true
  · rw [OrderEntry.handleCancelSuccess_of_strings transports.rest hstrings]
    rw [isArrayOfString_iff] at hstrings
    apply iff_of_false (fun h ↦ h rfl)
    rintro ⟨⟨first, hfirst, hreports⟩, _⟩
    obtain ⟨literal, rfl⟩ := hstrings first (List.mem_of_mem_head? hfirst)
    exact hreports
  · rw [Bool.not_eq_true] at hstrings
    have hdecodes := transports.decodesCancel (statuses.tokens.map (CancelStatus.tree unescape))
    rw [Decodable, ← isOk_mapM_iff]
    cases hitems : (statuses.tokens.map (CancelStatus.tree unescape)).mapM
        transports.decodeCancelItem with
    | error what =>
      rw [hitems] at hdecodes
      rw [OrderEntry.handleCancelSuccess_of_undecoded transports.rest hstrings hdecodes]
      exact iff_of_false (fun h ↦ h rfl) fun h ↦ nomatch h.2
    | ok items =>
      rw [hitems] at hdecodes
      rw [OrderEntry.handleCancelSuccess_of_decoded transports.rest hstrings hdecodes,
        and_iff_left (show (Except.ok items).isOk = true from rfl), FirstReports]
      generalize statuses.tokens = tokens at hstrings hitems
      cases tokens with
      | nil => cases hstrings
      | cons first tokens =>
        obtain ⟨item, rest, hitem, rfl⟩ := mapM_cons_eq_ok hitems
        have herror := error_ne_empty_iff transports unescape hitem
        simp only [List.head?_cons, Option.mem_some_iff, exists_eq_left', ← herror,
          OrderEntry.firstStatus]
        by_cases hempty : item.error = ""
        · rw [hempty]
          exact iff_of_false (fun h ↦ h rfl) fun h ↦ h rfl
        · rw [if_neg (by simpa using hempty)]
          exact iff_of_true (List.cons_ne_nil _ _) hempty

/-- Over WebSocket anything but one success is reported. -/
theorem rejects_cancelOverWebSocket_iff (statuses : CancelStatuses) :
    Rejects (cancelOverWebSocket transports order statuses) ↔ ¬ SpelledSuccess statuses := by
  have hnotEmpty : (String.ofList (statuses.chars CancelStatus.chars)).isEmpty = false := by
    rw [← Bool.not_eq_true, String.isEmpty_iff, ← String.toList_inj, String.toList_ofList]
    exact ArrayText.chars_ne_nil _ statuses
  have hsuccess : String.ofList (statuses.chars CancelStatus.chars) = WebSocket.successText ↔
      SpelledSuccess statuses := by
    rw [SpelledSuccess, ← String.toList_inj, String.toList_ofList]
  rw [← hsuccess]
  simp only [Rejects, cancelOverWebSocket, WebSocket.actionCancel, hnotEmpty, Bool.false_or,
    beq_iff_eq, decodeRequestId_replyId, WebSocket.reject, order.found, if_true, ne_eq,
    not_true_eq_false, if_false]
  by_cases h : String.ofList (statuses.chars CancelStatus.chars) = WebSocket.successText
  · rw [if_pos h]
    exact iff_of_false (fun h ↦ h rfl) fun hne ↦ hne h
  · rw [if_neg h]
    exact iff_of_true (List.cons_ne_nil _ _) h

/-- One success has no object. -/
theorem not_firstReports_of_spelledSuccess {statuses : CancelStatuses}
    (h : SpelledSuccess statuses) : ¬ FirstReports statuses := by
  rintro ⟨first, hfirst, hreports⟩
  cases first with
  | text literal => exact hreports
  | error beforeKey afterKey beforeText afterText literal =>
    have hbrace : '\x7b' ∈ statuses.chars CancelStatus.chars :=
      ArrayText.mem_chars _ (List.mem_of_mem_head? hfirst) (List.mem_cons_self ..)
    rw [h] at hbrace
    exact absurd hbrace (by decide)

/-- REST and WebSocket agree on whether a cancel request failed exactly when the statuses
are spelled as one success, or the first one has an error and all can be decoded. -/
theorem cancelRejects_iff (status : Web.Status) (version : UInt32) (statuses : CancelStatuses) :
    (Rejects (cancelOverRest transports order unescape status version statuses) ↔
        Rejects (cancelOverWebSocket transports order statuses)) ↔
      SpelledSuccess statuses ∨
        (FirstReports statuses ∧ Decodable transports unescape statuses) := by
  rw [rejects_cancelOverRest_iff, rejects_cancelOverWebSocket_iff]
  by_cases hspelled : SpelledSuccess statuses
  · have hfirst := not_firstReports_of_spelledSuccess hspelled
    exact iff_of_true (iff_of_false (fun h ↦ hfirst h.1) (fun h ↦ h hspelled)) (Or.inl hspelled)
  · rw [iff_true_right hspelled, or_iff_right hspelled]

/-- A text as it stands between the quotes. -/
def verbatim : Unescape where
  text literal := String.ofList literal.content
  text_eq_empty_iff literal := by
    rw [← String.toList_inj, String.toList_ofList]
    rfl

/-- An empty array is rejected over WebSocket only. -/
theorem cancelRejects_differ :
    ¬ ∀ (transports : Transports) (order : KnownOrder transports) (unescape : Unescape)
      (status : Web.Status) (version : UInt32) (statuses : CancelStatuses),
      (Rejects (cancelOverRest transports order unescape status version statuses) ↔
        Rejects (cancelOverWebSocket transports order statuses)) := by
  intro h
  have hsame := h schema firstOrder verbatim .ok 1 (.empty .none)
  rw [rejects_cancelOverRest_iff, rejects_cancelOverWebSocket_iff] at hsame
  obtain ⟨⟨first, hfirst, _⟩, _⟩ := hsame.mpr (by unfold SpelledSuccess; decide)
  exact absurd hfirst (Option.not_mem_none first)

end Transports

end Hyperliquid.Gateway
