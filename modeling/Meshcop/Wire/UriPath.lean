/-
  Meshcop.Wire.UriPath — setting and reading the path of a CoAP message
  (`meshcop/src/meshcop/coap.rs`).

  `set_uri_path` takes the old Uri-Path options out, cuts the path at its slashes and pushes one
  option for each segment; `uri_path` joins them again.  The encoder sorts the options by number
  and keeps the order of equal numbers, so the path arrives as it was set wherever the other
  options stand.

  A path with an empty segment is refused only when the loop gets there.  By then the old
  options are gone and the segments before it have been pushed.

  Main results:
    * `setUriPath_eq_ok`   — what an accepted path does to a message;
    * `uri_path_survives`  — and what is read back, before and after the wire;
    * `setUriPath_eq_error` — what a rejected path leaves behind;
    * `rejected_path_iff`  — when that is the message as it was.
-/

import Meshcop.Wire.CoapCodec

namespace Meshcop

open Lib

namespace CoapMessage

/-! ## §1. Cutting and joining. -/

/-- The path without one leading slash. -/
def trimmedPath (uriPath : Text) : Text :=
  match uriPath with
  | 0x2f :: rest => rest
  | _ => uriPath

theorem setUriPath_eq (path : Text) : setUriPath path = (do
    modify fun message => { message with
      options := message.options.filter (fun option => option.number ≠ COAP_OPTION_URI_PATH) }
    if trimmedPath path = [] then return () else pushSegments (splitPath (trimmedPath path))) :=
  rfl

/-- Joining the segments gives the path back. -/
theorem flatMap_splitPath (path : Text) :
    (splitPath path).flatMap (fun segment => 0x2f :: segment) = 0x2f :: path := by
  induction path with
  | nil => rfl
  | cons b path ih =>
    unfold splitPath
    by_cases hslash : b = 0x2f
    · rw [if_pos hslash, List.flatMap_cons, ih, hslash]
      rfl
    rw [if_neg hslash]
    cases hsplit : splitPath path with
    | nil =>
      rw [hsplit] at ih
      cases ih
    | cons segment segments =>
      rw [hsplit, List.flatMap_cons, List.cons_append] at ih
      show (0x2f :: b :: segment) ++ segments.flatMap (fun segment => 0x2f :: segment) = _
      rw [List.cons_append, List.cons_append, (List.cons.inj ih).2]

/-- Each segment of a text is a text. -/
theorem validUtf8_of_mem_segments {segment : Text} {segments : List Text}
    (h : validUtf8From 0 0x80 0xbf
      (segment ++ segments.flatMap (fun segment => 0x2f :: segment)) = true) :
    ∀ piece ∈ segment :: segments, validUtf8From 0 0x80 0xbf piece = true := by
  induction segments generalizing segment with
  | nil =>
    rw [List.flatMap_nil, List.append_nil] at h
    intro piece hpiece
    rw [List.mem_singleton.mp hpiece]
    exact h
  | cons next segments ih =>
    rw [List.flatMap_cons, List.cons_append] at h
    obtain ⟨hsegment, hrest⟩ := validUtf8From_append (by decide) (by decide) h
    intro piece hpiece
    rcases List.mem_cons.mp hpiece with rfl | hpiece
    · exact hsegment
    · exact ih hrest piece hpiece

theorem validUtf8_of_mem_splitPath {path : Text} (h : validUtf8From 0 0x80 0xbf path = true) :
    ∀ segment ∈ splitPath path, validUtf8From 0 0x80 0xbf segment = true := by
  have hjoin := flatMap_splitPath path
  cases hsplit : splitPath path with
  | nil => exact List.forall_mem_nil _
  | cons segment segments =>
    rw [hsplit, List.flatMap_cons, List.cons_append] at hjoin
    apply validUtf8_of_mem_segments
    rw [(List.cons.inj hjoin).2]
    exact h

theorem validUtf8_trimmedPath {path : Text} (h : validUtf8From 0 0x80 0xbf path = true) :
    validUtf8From 0 0x80 0xbf (trimmedPath path) = true := by
  unfold trimmedPath
  split
  · have hcut : validUtf8From 0 0x80 0xbf ([] ++ 0x2f :: _) = true := h
    exact (validUtf8From_append (by decide) (by decide) hcut).2
  · exact h

/-! ## §2. Reading the path. -/

/-- Only the Uri-Path options are read. -/
theorem uriSegments_filter (options : List CoapOption) :
    uriSegments (options.filter (fun option => option.number = COAP_OPTION_URI_PATH))
      = uriSegments options := by
  induction options with
  | nil => rfl
  | cons option options ih =>
    by_cases hpath : option.number = COAP_OPTION_URI_PATH
    · rw [List.filter_cons_of_pos (by simpa using hpath)]
      unfold uriSegments
      rw [if_pos hpath, if_pos hpath, ih]
    · rw [List.filter_cons_of_neg (by simpa using hpath), ih]
      conv_rhs => unfold uriSegments
      rw [if_neg hpath]

theorem uriSegments_pathOptions {segments : List Text}
    (h : ∀ segment ∈ segments, validUtf8From 0 0x80 0xbf segment = true) :
    uriSegments (pathOptions segments) = .ok segments := by
  induction segments with
  | nil => rfl
  | cons segment segments ih =>
    show uriSegments ({ number := COAP_OPTION_URI_PATH, value := segment } ::
      pathOptions segments) = _
    unfold uriSegments
    rw [if_pos rfl, fromUtf8_eq_some (h segment List.mem_cons_self),
      ih (fun s hs => h s (List.mem_cons_of_mem _ hs))]
    rfl

/-- A message whose Uri-Path options are the segments of a text has that text as its path. -/
theorem uriPath_of_segments {message : CoapMessage} {path : Text}
    (hutf8 : validUtf8From 0 0x80 0xbf path = true)
    (h : message.options.filter (fun option => option.number = COAP_OPTION_URI_PATH)
      = pathOptions (splitPath path)) :
    message.uriPath = .ok (some (0x2f :: path)) := by
  have hsegments : uriSegments message.options = .ok (splitPath path) := by
    rw [← uriSegments_filter, h, uriSegments_pathOptions (validUtf8_of_mem_splitPath hutf8)]
  have hne : splitPath path ≠ [] := by
    intro hnil
    have hjoin := flatMap_splitPath path
    rw [hnil] at hjoin
    cases hjoin
  unfold uriPath
  rw [hsegments]
  show Except.ok (if splitPath path = [] then none else _) = _
  rw [if_neg hne, flatMap_splitPath]

/-! ## §3. An accepted path. -/

/-- The options that are not part of the path, in their order. -/
def otherOptions (message : CoapMessage) : List CoapOption :=
  message.options.filter (fun option => option.number ≠ COAP_OPTION_URI_PATH)

theorem mem_otherOptions {message : CoapMessage} {option : CoapOption} :
    option ∈ message.otherOptions ↔
      option ∈ message.options ∧ option.number ≠ COAP_OPTION_URI_PATH := by
  unfold otherOptions
  rw [List.mem_filter, decide_eq_true_eq]

/-- **An accepted path replaces the old one.** -/
theorem setUriPath_eq_ok {path : Text}
    (h : ∀ segment ∈ splitPath (trimmedPath path), segment ≠ []) (message : CoapMessage) :
    setUriPath path message = .ok () { message with
      options := message.otherOptions ++ pathOptions (splitPath (trimmedPath path)) } := by
  have hne : trimmedPath path ≠ [] := by
    intro hnil
    rw [hnil] at h
    exact h [] List.mem_cons_self rfl
  rw [setUriPath_eq]
  show (if trimmedPath path = [] then _ else _ : EStateM Error CoapMessage Unit) _ = _
  rw [if_neg hne, pushSegments_ok h]
  rfl

/-- The options with the number of Uri-Path, of a message that has been given a path. -/
theorem filter_append_pathOptions (message : CoapMessage) (segments : List Text) :
    (message.otherOptions ++ pathOptions segments).filter
      (fun option => option.number = COAP_OPTION_URI_PATH) = pathOptions segments := by
  rw [List.filter_append]
  have hothers : message.otherOptions.filter
      (fun option => option.number = COAP_OPTION_URI_PATH) = [] := by
    apply List.filter_eq_nil_iff.mpr
    intro option hoption
    rw [decide_eq_true_eq]
    exact (mem_otherOptions.mp hoption).2
  have hpath : (pathOptions segments).filter
      (fun option => option.number = COAP_OPTION_URI_PATH) = pathOptions segments := by
    apply List.filter_eq_self.mpr
    intro option hoption
    obtain ⟨segment, -, rfl⟩ := List.mem_map.mp hoption
    rfl
  rw [hothers, hpath, List.nil_append]

/-- Sorting the options keeps the path. -/
theorem uriPath_sortedOptions (message : CoapMessage) :
    ({ message with options := message.sortedOptions } : CoapMessage).uriPath = message.uriPath := by
  have hsegments : uriSegments message.sortedOptions = uriSegments message.options := by
    rw [← uriSegments_filter message.sortedOptions, filter_sortedOptions, uriSegments_filter]
  unfold uriPath
  show (uriSegments message.sortedOptions >>= fun segments => _) = _
  rw [hsegments]

/-- **A path that is set is read back.**  For a text whose segments are not empty and fit an
    option, `set_uri_path` succeeds, keeps the other options and replaces all of the old path;
    `uri_path` then returns the text after one slash.  The message encodes exactly if its token and
    its other options fit; and from any message with these Uri-Path options, wherever others
    stand, the same path is read after encoding and decoding. -/
theorem uri_path_survives (message : CoapMessage) (path : Text)
    (hutf8 : fromUtf8 path = some path)
    (hsegments : ∀ segment ∈ splitPath (trimmedPath path),
      segment ≠ [] ∧ segment.length ≤ 65535) :
    ∃ result, setUriPath path message = .ok () result ∧
      result = { message with
        options := message.otherOptions ++ pathOptions (splitPath (trimmedPath path)) } ∧
      result.uriPath = .ok (some (0x2f :: trimmedPath path)) ∧
      ((∃ bytes, result.encode = .ok bytes) ↔
        message.token.length ≤ 8 ∧
          ∀ option ∈ message.otherOptions, option.value.length ≤ 65535) ∧
      ∀ (placed : CoapMessage) (bytes : Bytes),
        placed.options.filter (fun option => option.number = COAP_OPTION_URI_PATH) =
          result.options.filter (fun option => option.number = COAP_OPTION_URI_PATH) →
        placed.encode = .ok bytes →
        ∃ decoded, decode bytes = .ok decoded ∧
          decoded.uriPath = .ok (some (0x2f :: trimmedPath path)) := by
  have hvalid : validUtf8From 0 0x80 0xbf (trimmedPath path) = true := by
    apply validUtf8_trimmedPath
    by_contra hinvalid
    unfold fromUtf8 at hutf8
    rw [if_neg hinvalid] at hutf8
    cases hutf8
  have hfilter := filter_append_pathOptions message (splitPath (trimmedPath path))
  refine ⟨_, setUriPath_eq_ok (fun segment hmem => (hsegments segment hmem).1) message, rfl,
    uriPath_of_segments hvalid hfilter, ?_, ?_⟩
  · rw [encode_isOk_iff]
    show _ ∧ (∀ option ∈ message.otherOptions ++ pathOptions _, _) ↔ _
    constructor
    · intro h
      exact ⟨h.1, fun option hoption => h.2 option (List.mem_append_left _ hoption)⟩
    · intro h
      refine ⟨h.1, fun option hoption => ?_⟩
      rcases List.mem_append.mp hoption with hother | hpath
      · exact h.2 option hother
      · obtain ⟨segment, hsegment, rfl⟩ := List.mem_map.mp hpath
        exact (hsegments segment hsegment).2
  · intro placed bytes hplaced hencode
    refine ⟨_, decode_of_encode hencode, ?_⟩
    rw [uriPath_sortedOptions]
    exact uriPath_of_segments hvalid (hplaced.trans hfilter)

/-- The path `c/ca` in place of an old one, between two other options. -/
theorem uri_path_survives_example :
    ∃ result, setUriPath (ascii "/c/ca")
        { ty := .confirmable, code := .POST, messageId := 7, token := [1]
          options := [{ number := 12, value := [0] }, { number := 11, value := ascii "old" },
                      { number := 3, value := [5] }]
          payload := [] } = .ok () result ∧
      result.uriPath = .ok (some (ascii "/c/ca")) ∧
      result.options.length = 4 := by
  obtain ⟨result, hset, hresult, hpath, -⟩ := uri_path_survives
    { ty := .confirmable, code := .POST, messageId := 7, token := [1]
      options := [{ number := 12, value := [0] }, { number := 11, value := ascii "old" },
                  { number := 3, value := [5] }]
      payload := [] } (ascii "/c/ca") (by decide) (by decide)
  refine ⟨result, hset, hpath, ?_⟩
  rw [hresult]
  decide

/-! ## §4. A rejected path. -/

/-- The segments before the first empty one. -/
def leadingSegments (path : Text) : List Text :=
  (splitPath (trimmedPath path)).takeWhile (· ≠ [])

/-- The loop stops at an empty segment; the segments before it have been pushed. -/
theorem pushSegments_eq_error {segments : List Text} (h : [] ∈ segments) (message : CoapMessage) :
    pushSegments segments message =
      .error (.dataset "CoAP Uri-Path has an empty segment") { message with
        options := message.options ++ pathOptions (segments.takeWhile (· ≠ [])) } := by
  induction segments generalizing message with
  | nil => exact absurd h List.not_mem_nil
  | cons segment segments ih =>
    unfold pushSegments
    by_cases hempty : segment = []
    · rw [if_pos hempty, List.takeWhile_cons_of_neg (by simpa using hempty)]
      show EStateM.Result.error _ message = .error _ { message with options := message.options ++ [] }
      rw [List.append_nil]
    have hlater : [] ∈ segments := by
      rcases List.mem_cons.mp h with hhere | hlater
      · exact absurd hhere.symm hempty
      · exact hlater
    rw [if_neg hempty, List.takeWhile_cons_of_pos (by simpa using hempty)]
    show pushSegments segments _ = _
    rw [ih hlater]
    show EStateM.Result.error _ { message with options := (message.options ++ [_]) ++ _ } = _
    rw [List.append_assoc]
    rfl

/-- **A rejected path leaves its leading segments behind, in place of the old path.** -/
theorem setUriPath_eq_error {path : Text} (hne : trimmedPath path ≠ [])
    (h : [] ∈ splitPath (trimmedPath path)) (message : CoapMessage) : setUriPath path message =
      .error (.dataset "CoAP Uri-Path has an empty segment") { message with
        options := message.otherOptions ++ pathOptions (leadingSegments path) } := by
  rw [setUriPath_eq]
  show (if trimmedPath path = [] then _ else _ : EStateM Error CoapMessage Unit) _ = _
  rw [if_neg hne, pushSegments_eq_error h]
  rfl

/-- `set_uri_path` accepts the empty path and every path without an empty segment. -/
def AcceptedPath (path : Text) : Prop :=
  trimmedPath path = [] ∨ [] ∉ splitPath (trimmedPath path)

theorem AcceptedPath.eq_ok {path : Text} (h : AcceptedPath path) (message : CoapMessage) :
    ∃ result, setUriPath path message = .ok () result := by
  by_cases hempty : trimmedPath path = []
  · rw [setUriPath_eq]
    show ∃ result, (if trimmedPath path = [] then _ else _ : EStateM Error CoapMessage Unit) _ = _
    rw [if_pos hempty]
    exact ⟨_, rfl⟩
  · have hfull := h.resolve_left hempty
    refine ⟨_, setUriPath_eq_ok (fun segment hmem hnil => ?_) message⟩
    rw [hnil] at hmem
    exact hfull hmem

/-- **When an error leaves the message as it was.**  Exactly if the path is accepted and there
    is no error, or if the path options of the message are the leading segments of the rejected
    path already, behind all other options. -/
theorem rejected_path_iff (message : CoapMessage) (path : Text) :
    (∀ error result, setUriPath path message = .error error result → result = message) ↔
      (AcceptedPath path ∨
        message.options = message.otherOptions ++ pathOptions (leadingSegments path)) := by
  constructor
  · intro h
    by_cases haccepted : AcceptedPath path
    · exact Or.inl haccepted
    · unfold AcceptedPath at haccepted
      push Not at haccepted
      have hsame := h _ _ (setUriPath_eq_error haccepted.1 haccepted.2 message)
      exact Or.inr (congrArg CoapMessage.options hsame).symm
  · intro h error result hset
    by_cases haccepted : AcceptedPath path
    · obtain ⟨result', hok⟩ := haccepted.eq_ok message
      rw [hok] at hset
      cases hset
    have hkept := h.resolve_left haccepted
    unfold AcceptedPath at haccepted
    push Not at haccepted
    rw [setUriPath_eq_error haccepted.1 haccepted.2 message, ← hkept] at hset
    cases hset
    rfl

/-- The path `/b//c` is rejected, but the path `a` of the message is gone and `b` stands in its
    place. -/
theorem rejected_path_stays :
    ∃ result, setUriPath (ascii "/b//c")
        { ty := .confirmable, code := .POST, messageId := 7, token := []
          options := [{ number := COAP_OPTION_URI_PATH, value := ascii "a" }], payload := [] } =
        .error (.dataset "CoAP Uri-Path has an empty segment") result ∧
      result.options = [{ number := COAP_OPTION_URI_PATH, value := ascii "b" }] ∧
      result.options ≠ [{ number := COAP_OPTION_URI_PATH, value := ascii "a" }] := by
  refine ⟨_, setUriPath_eq_error (by decide) (by decide) _, ?_, ?_⟩
  · decide
  · decide

end CoapMessage

end Meshcop
