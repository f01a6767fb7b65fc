import HotelBooking.Database.Schema
import HotelBooking.Sessions.PercentDecoding

/-! The middleware that gives every request its session: the header, else the cookie, else a new
identifier. The search for the cookie is proved against the list of the cookies. -/
namespace HotelBooking

/-- A header of the request. Node joins or lists the values of one that is repeated. -/
inductive Header where
  | absent
  | single (value : Text)
  | list (values : List Text)

/-- `Array.isArray(fromHeader) ? fromHeader[0] : fromHeader` -/
def Header.first? : Header → Option Text
  | .absent => none
  | .single value => some value
  | .list values => values.head?

structure SessionRequest where
  sessionId : Header
  cookie : Option Text

def semicolon : UInt16 := 59

/-- The input after a literal that it starts with. -/
def after? : Text → Text → Option Text
  | [], input => some input
  | _ :: _, [] => none
  | unit :: literal, head :: input => if head = unit then after? literal input else none

/-- `sid=([^;]+)`, here. -/
def sidHere? (input : Text) : Option Text := do
  let rest ← after? (text "sid=") input
  let value := rest.takeWhile (· ≠ semicolon)
  if value = [] then none else some value

/-- `;\s*sid=([^;]+)`, wherever it matches first. -/
def sidLater? : Text → Option Text
  | [] => none
  | unit :: rest =>
    if unit = semicolon then (sidHere? (rest.dropWhile isBlank)).or (sidLater? rest)
    else sidLater? rest

/-- `/(?:^|;\s*)sid=([^;]+)/` -/
def matchSid (cookie : Text) : Option Text := (sidHere? cookie).or (sidLater? cookie)

inductive UriError where
  | malformed
  deriving DecidableEq

def sessionFromCookie (cookie : Option Text) : Except UriError (Option Text) :=
  match cookie.bind matchSid with
  | none => .ok none
  | some value =>
    match decodeURIComponent value with
    | some id => .ok (some id)
    | none => .error .malformed

/-- `[A-Za-z0-9._-]` -/
def isSessionUnit (unit : UInt16) : Bool :=
  (65 ≤ unit && unit ≤ 90) || (97 ≤ unit && unit ≤ 122) || (48 ≤ unit && unit ≤ 57) ||
    unit == 46 || unit == 95 || unit == 45

/-- `SESSION_ID_RE.test` -/
def isSessionId (id : Text) : Bool :=
  decide (1 ≤ id.length) && decide (id.length ≤ 64) && id.all isSessionUnit

/-- What the handlers of a request see; the sets of nodes and routes start empty. -/
structure RequestContext where
  sessionId : Text
  nodes : List Text := []
  routes : List Text := []
  deriving DecidableEq

/-- What the middleware does to the response, and its call of `next` inside a context. -/
inductive MiddlewareAction where
  | cookie (name value : Text) (httpOnly : Bool) (sameSite path : Text)
  | setHeader (name value : Text)
  | next (context : RequestContext)

namespace RequestContextMiddleware

/-- An identifier that is missing or not admitted is replaced. -/
def enter (given : Option Text) (fresh : Uuid) : List MiddlewareAction :=
  match given.filter isSessionId with
  | some sessionId => [.setHeader (text "X-Session-Id") sessionId, .next { sessionId }]
  | none =>
    [.cookie (text "sid") fresh true (text "lax") (text "/"),
      .setHeader (text "X-Session-Id") fresh, .next { sessionId := fresh }]

/-- `??` reads the cookie only where there is no header, and throws what its decoding throws. -/
def use (request : SessionRequest) (fresh : Uuid) : Except UriError (List MiddlewareAction) :=
  match request.sessionId.first? with
  | some value => .ok (enter (some value) fresh)
  | none => (sessionFromCookie request.cookie).map fun given => enter given fresh

end RequestContextMiddleware

/-- The cookies of the header. After a semicolon there may be blanks before a name. -/
def cookiePairs (cookie : Text) : List Text :=
  match cookie.splitOn semicolon with
  | [] => []
  | first :: others => first :: others.map (·.dropWhile isBlank)

/-- The value of a cookie named sid, unless it is empty. -/
def sidOf (pair : Text) : Option Text := (after? (text "sid=") pair).filter (· ≠ [])

/-- The first cookie named sid that is not empty. -/
def firstSid (request : SessionRequest) : Option Text :=
  request.cookie.bind fun cookie => (cookiePairs cookie).findSome? sidOf

section Search

theorem after?_takeWhile {kept : UInt16 → Bool} (literal : Text)
    (keeps : ∀ unit ∈ literal, kept unit = true) (input : Text) :
    after? literal (input.takeWhile kept) = (after? literal input).map (·.takeWhile kept) := by
  induction literal generalizing input with
  | nil => rfl
  | cons unit literal ih =>
    have here := keeps unit List.mem_cons_self
    cases input with
    | nil => rfl
    | cons head input =>
      by_cases same : head = unit
      · subst same
        rw [List.takeWhile_cons, if_pos here]
        simp only [after?, if_pos]
        exact ih (fun other member => keeps other (List.mem_cons_of_mem _ member)) input
      · rw [List.takeWhile_cons]
        split
        · simp [after?, same]
        · simp [after?, same]

theorem takeWhile_dropWhile_comm {kept dropped : UInt16 → Bool}
    (within : ∀ unit, dropped unit = true → kept unit = true) (input : Text) :
    (input.dropWhile dropped).takeWhile kept = (input.takeWhile kept).dropWhile dropped := by
  induction input with
  | nil => rfl
  | cons unit input ih =>
    by_cases drops : dropped unit = true
    · rw [List.dropWhile_cons, if_pos drops, List.takeWhile_cons, if_pos (within unit drops),
        List.dropWhile_cons, if_pos drops, ih]
    · rw [List.dropWhile_cons, if_neg drops, List.takeWhile_cons]
      split
      · rw [List.dropWhile_cons, if_neg drops]
      · rfl

theorem sidHere?_eq (input : Text) : sidHere? input = sidOf (input.takeWhile (· ≠ semicolon)) := by
  rw [sidOf, after?_takeWhile (text "sid=") (List.all_eq_true.mp (by decide)), sidHere?]
  cases after? (text "sid=") input with
  | none => rfl
  | some rest =>
    rw [Option.map_some]
    change (if rest.takeWhile (· ≠ semicolon) = [] then none else some _) = _
    generalize rest.takeWhile (· ≠ semicolon) = value
    by_cases empty : value = []
    · rw [if_pos empty, Option.filter_some, if_neg (by simpa using empty)]
    · rw [if_neg empty, Option.filter_some, if_pos (by simpa using empty)]

theorem head_splitOn (input : Text) : ∃ others,
    input.splitOn semicolon = input.takeWhile (· ≠ semicolon) :: others := by
  induction input with
  | nil => exact ⟨[], rfl⟩
  | cons unit input ih =>
    obtain ⟨others, split⟩ := ih
    rw [List.splitOn_cons_eq_if_modifyHead, split]
    by_cases same : unit = semicolon
    · subst same
      exact ⟨_, rfl⟩
    · refine ⟨others, ?_⟩
      rw [if_neg (by simpa using same), List.takeWhile_cons, if_pos (by simpa using same)]
      rfl

theorem sidLater?_eq (input : Text) : sidLater? input =
    ((input.splitOn semicolon).tail.map (·.dropWhile isBlank)).findSome? sidOf := by
  induction input with
  | nil => rfl
  | cons unit input ih =>
    rw [List.splitOn_cons_eq_if_modifyHead]
    obtain ⟨others, split⟩ := head_splitOn input
    rw [split] at ih ⊢
    by_cases same : unit = semicolon
    · subst same
      have inner : ∀ unit, isBlank unit = true → decide (unit ≠ semicolon) = true := by
        intro unit blank
        rw [decide_eq_true_eq]
        rintro rfl
        revert blank
        decide
      rw [sidLater?, if_pos rfl, sidHere?_eq, takeWhile_dropWhile_comm inner, ih]
      simp only [BEq.rfl, if_true, List.tail_cons, List.map_cons, List.findSome?_cons]
      cases sidOf ((input.takeWhile (· ≠ semicolon)).dropWhile isBlank) with
      | none => rfl
      | some value => rfl
    · rw [sidLater?, if_neg same, ih, if_neg (by simpa using same)]
      rfl

/-- The regular expression finds the first cookie named sid that is not empty. -/
theorem matchSid_eq (cookie : Text) : matchSid cookie = (cookiePairs cookie).findSome? sidOf := by
  obtain ⟨others, split⟩ := head_splitOn cookie
  rw [matchSid, sidHere?_eq, sidLater?_eq, cookiePairs, split]
  simp only [List.tail_cons, List.findSome?_cons]
  cases sidOf (cookie.takeWhile (· ≠ semicolon)) with
  | none => rfl
  | some value => rfl

end Search

/-- The contexts in which `next` is called. -/
def nextContexts (actions : List MiddlewareAction) : List RequestContext :=
  actions.filterMap fun action =>
    match action with
    | .next context => some context
    | _ => none

/-- The values that the cookie sid is set to. -/
def sidCookies (actions : List MiddlewareAction) : List Text :=
  actions.filterMap fun action =>
    match action with
    | .cookie name value _ _ _ => if name = text "sid" then some value else none
    | _ => none

/-- The identifier that the client sent: in the header, or without one in the cookie. -/
inductive Presents (request : SessionRequest) : Text → Prop where
  | header {id : Text} : request.sessionId.first? = some id → isSessionId id = true → Presents request id
  | cookie {value id : Text} : request.sessionId.first? = none → firstSid request = some value →
      Decodes value id → isSessionId id = true → Presents request id

/-- `next` is called once, in the session that the client presents, or else in a new one whose
identifier is set as the cookie. -/
structure Handled (request : SessionRequest) (fresh : Text) (actions : List MiddlewareAction) :
    Prop where
  once : ∃ context, nextContexts actions = [context] ∧ isSessionId context.sessionId = true ∧
    (Presents request context.sessionId ∨
      (∀ id, ¬ Presents request id) ∧ context.sessionId = fresh ∧ sidCookies actions = [fresh])

/-- The cookie is not read, or it can be decoded. -/
def CookieReadable (request : SessionRequest) : Prop :=
  request.sessionId.first? = none → ∀ value, firstSid request = some value → ∃ id, Decodes value id

theorem isSessionUnit_of_hexDigit? {unit : UInt16} {digit : Nat} (read : hexDigit? unit = some digit) :
    isSessionUnit unit = true := by
  unfold hexDigit? at read
  unfold isSessionUnit
  split at read
  · simp [*]
  · split at read
    · next upper =>
      have wide : unit ≤ 90 := UInt16.le_trans upper.2 (by decide)
      simp [upper.1, wide]
    · split at read
      · next lower =>
        have wide : unit ≤ 122 := UInt16.le_trans lower.2 (by decide)
        simp [lower.1, wide]
      · cases read

/-- A new identifier is one that the expression admits. -/
theorem isSessionId_uuid (fresh : Uuid) : isSessionId fresh = true := by
  have admitted := fresh.admitted
  simp only [isUUID, Bool.and_eq_true, beq_iff_eq] at admitted
  obtain ⟨length, shape⟩ := admitted
  simp only [isSessionId, Bool.and_eq_true, decide_eq_true_eq, List.all_eq_true] at shape ⊢
  refine ⟨⟨by omega, by omega⟩, fun unit member => ?_⟩
  obtain ⟨i, inside, rfl⟩ := List.getElem_of_mem member
  have here := shape (fresh.text[i], i) (List.mem_zipIdx_iff_getElem?.mpr (List.getElem?_eq_getElem inside))
  dsimp only at here
  split at here
  · rw [beq_iff_eq] at here
    rw [here]
    decide
  · obtain ⟨digit, read⟩ := Option.isSome_iff_exists.mp here
    exact isSessionUnit_of_hexDigit? read

section Use
variable {request : SessionRequest} {fresh : Uuid}

/-- What the client gives is accepted or replaced. -/
theorem handled_enter {given : Option Text}
    (presents : ∀ id, Presents request id ↔ given = some id ∧ isSessionId id = true) :
    Handled request fresh (RequestContextMiddleware.enter given fresh) := by
  unfold RequestContextMiddleware.enter
  cases kept : given.filter isSessionId with
  | some id =>
    obtain ⟨same, valid⟩ := Option.filter_eq_some_iff.mp kept
    exact ⟨_, rfl, valid, Or.inl ((presents id).mpr ⟨same, valid⟩)⟩
  | none =>
    refine ⟨_, rfl, isSessionId_uuid fresh, Or.inr ⟨fun id sent => ?_, rfl, rfl⟩⟩
    obtain ⟨same, valid⟩ := (presents id).mp sent
    rw [Option.filter_eq_none_iff] at kept
    exact kept id same valid

/-- With a header the cookie is not looked at. -/
theorem presents_header {value : Text} (header : request.sessionId.first? = some value) (id : Text) :
    Presents request id ↔ some value = some id ∧ isSessionId id = true := by
  constructor
  · intro sent
    cases sent with
    | header here valid => exact ⟨header.symm.trans here, valid⟩
    | cookie missing _ _ _ =>
      rw [header] at missing
      cases missing
  · rintro ⟨same, valid⟩
    exact .header (header.trans same) valid

theorem presents_cookie (header : request.sessionId.first? = none) (id : Text) :
    Presents request id ↔ (firstSid request).bind decodeURIComponent = some id ∧
      isSessionId id = true := by
  rw [Option.bind_eq_some_iff]
  constructor
  · intro sent
    cases sent with
    | header here _ =>
      rw [header] at here
      cases here
    | cookie _ found decodes valid =>
      exact ⟨⟨_, found, decodeURIComponent_eq_some.mpr decodes⟩, valid⟩
  · rintro ⟨⟨value, found, decoded⟩, valid⟩
    exact .cookie header found (decodeURIComponent_eq_some.mp decoded) valid

theorem bind_matchSid (request : SessionRequest) : request.cookie.bind matchSid = firstSid request := by
  unfold firstSid
  congr 1
  funext cookie
  exact matchSid_eq cookie

/-- A request is handled exactly when its cookie, if it is read, can be decoded. -/
theorem use_handles_iff (request : SessionRequest) (fresh : Uuid) :
    (∃ actions, RequestContextMiddleware.use request fresh = .ok actions ∧
      Handled request fresh actions) ↔ CookieReadable request := by
  unfold CookieReadable
  cases header : request.sessionId.first? with
  | some value =>
    constructor
    · rintro _ ⟨⟩
    · intro _
      refine ⟨RequestContextMiddleware.enter (some value) fresh, ?_, ?_⟩
      · rw [RequestContextMiddleware.use, header]
      · exact handled_enter (presents_header header)
  | none =>
    have presents := presents_cookie header
    rw [RequestContextMiddleware.use, header, sessionFromCookie, bind_matchSid]
    cases found : firstSid request with
    | none =>
      rw [found] at presents
      constructor
      · rintro _ _ _ ⟨⟩
      · intro _
        exact ⟨RequestContextMiddleware.enter none fresh, rfl, handled_enter presents⟩
    | some value =>
      rw [found, Option.bind_some] at presents
      cases decoded : decodeURIComponent value with
      | none =>
        constructor
        · rintro ⟨actions, thrown, _⟩
          simp [decoded, Except.map] at thrown
        · intro readable
          obtain ⟨id, decodes⟩ := readable rfl value rfl
          rw [decodeURIComponent_eq_some.mpr decodes] at decoded
          cases decoded
      | some id =>
        rw [decoded] at presents
        constructor
        · rintro _ _ other ⟨⟩
          exact ⟨id, decodeURIComponent_eq_some.mp decoded⟩
        · intro _
          refine ⟨RequestContextMiddleware.enter (some id) fresh, ?_, handled_enter presents⟩
          simp [decoded]
          rfl

end Use

def sampleSession : Uuid := ⟨sampleUuid 1, by decide⟩

/-- The cookie `sid=%`: the request ends in a URIError, and `next` is not called. -/
theorem use_throws :
    RequestContextMiddleware.use ⟨.absent, some (text "sid=%")⟩ sampleSession = .error .malformed ∧
      ¬ ∃ actions, RequestContextMiddleware.use ⟨.absent, some (text "sid=%")⟩ sampleSession =
        .ok actions ∧ Handled ⟨.absent, some (text "sid=%")⟩ sampleSession actions := by
  have thrown : RequestContextMiddleware.use ⟨.absent, some (text "sid=%")⟩ sampleSession =
      .error .malformed := by
    have value : matchSid (text "sid=%") = some [percent] := by decide
    have decoded : decodeURIComponent [percent] = none := by
      rw [decodeURIComponent_percent]
      rfl
    simp only [RequestContextMiddleware.use, Header.first?, sessionFromCookie, Option.bind_some,
      value, decoded]
    rfl
  refine ⟨thrown, ?_⟩
  rintro ⟨actions, done, _⟩
  rw [thrown] at done
  cases done

end HotelBooking
