import Marketplace.Http.Caller
import Marketplace.Http.Router

/-!
# How a request is answered

A request `Reaches` a pattern if it is for a route with that pattern and the route has its method.

* `Reaches.plan_eq_error`: a request is refused if all handlers of the pattern that it reaches refuse
  it.
* `exists_handler_of_plan_eq_ok`: a call comes from a handler of a route that the request reaches.
* `serve_state_of_refused`: a service whose calls leave the store alone when they fail, and are
  answered with success when they do not, keeps the store through every request that it refuses.
* `anonymous_iff` and `of_isProvider`: the two credentials, in terms of the headers.
-/

namespace Marketplace.Http

variable {request : Request} {response : Response}

/-! ## Plans -/

section Plan

variable {Call : Type} {routes : List (Route Call)} {route : Route Call} {pattern : List Segment}
  {handler : Handler Call} {params : List (List Char)} {call : Call}

/-- The request is for a route with this pattern, and by a method that the route has. A path that
fits an earlier route as well is for that one. -/
def Reaches (routes : List (Route Call)) (pattern : List Segment) (request : Request) : Prop :=
  ∃ route params, findRoute? routes request.target = some (route, params) ∧
    route.pattern = pattern ∧ (route.handler? request.method).isSome

theorem mem_of_findRoute? {target : String} (h : findRoute? routes target = some (route, params)) :
    route ∈ routes := by
  obtain ⟨segments, -, h⟩ := Option.bind_eq_some_iff.mp h
  obtain ⟨r, hr, h⟩ := List.exists_of_findSome?_eq_some h
  obtain ⟨_, -, h⟩ := Option.map_eq_some_iff.mp h
  cases h
  exact hr

theorem mem_of_handler? {method : String} (h : route.handler? method = some handler) :
    (if method = "HEAD" then "GET" else method, handler) ∈ route.handlers := by
  obtain ⟨before, after, he, -⟩ := List.lookup_eq_some_iff.mp h
  rw [he]
  exact List.mem_append_right before List.mem_cons_self

/-- A request that reaches a pattern gets the answer that all handlers of the pattern give it. -/
theorem Reaches.plan_eq_error (h : Reaches routes pattern request)
    (hmethods : ∀ route ∈ routes, ∀ p ∈ route.handlers, p.1 ≠ "OPTIONS")
    (hrefuse : ∀ route ∈ routes, route.pattern = pattern → ∀ p ∈ route.handlers,
      ∀ params, p.2 params request = .error response) :
    plan routes request = .error response := by
  obtain ⟨route, params, hfound, hpattern, hallowed⟩ := h
  obtain ⟨handler, hhandler⟩ := Option.isSome_iff_exists.mp hallowed
  have hroute := mem_of_findRoute? hfound
  have hmem := mem_of_handler? hhandler
  have hmethod : request.method ≠ "OPTIONS" := by
    intro hm
    rw [hm] at hmem
    exact hmethods route hroute _ hmem rfl
  unfold plan
  simp only [hfound, if_neg hmethod, hhandler]
  exact hrefuse route hroute hpattern _ hmem params

theorem exists_handler_of_plan_eq_ok (h : plan routes request = .ok call) :
    ∃ route ∈ routes, ∃ p ∈ route.handlers, ∃ params, Reaches routes route.pattern request ∧
      p.2 params request = .ok call := by
  unfold plan at h
  split at h
  · cases h
  · rename_i route params hfound
    dsimp only at h
    split at h
    · cases h
    · split at h
      · rename_i handler hhandler
        refine ⟨route, mem_of_findRoute? hfound, _, mem_of_handler? hhandler, params, ?_, h⟩
        exact ⟨route, params, hfound, rfl, Option.isSome_iff_exists.mpr ⟨handler, hhandler⟩⟩
      · cases h

end Plan

/-! ## Answers from a store -/

section Serve

universe u

variable {Call ε α : Type} {σ : Type u} {routes : List (Route Call)}
  {perform : Call → σ → Outcome σ ε α} {answer : Except ε α → Except ε (Response × List LogLine)}
  {s : σ} {call : Call}

theorem serve_of_plan_eq_error (h : plan routes request = .error response) :
    serve routes perform answer request s = .ok (deliver request response) s := by
  rw [serve, h]

theorem serve_state_of_plan_eq_ok (h : plan routes request = .ok call) :
    (serve routes perform answer request s).state = (perform call s).state := by
  rw [serve, h]
  dsimp only
  split <;> rfl

theorem serve_result_of_plan_eq_ok {r : Except ε α} {log : List LogLine}
    (h : plan routes request = .ok call) (hr : (perform call s).result = r)
    (ha : answer r = .ok (response, log)) :
    (serve routes perform answer request s).result = .ok (deliver request response) := by
  rw [serve, h]
  simp only [hr, ha]

/-- A request that is not answered with success leaves the store as it was. -/
theorem serve_state_of_refused
    (hfail : ∀ call e, (perform call s).result = .error e → (perform call s).state = s)
    (hworded : ∀ a, ∃ response log, answer (.ok a) = .ok (response, log) ∧ response.IsSuccess)
    (h : ¬ ∃ response, (serve routes perform answer request s).result = .ok response ∧
      response.IsSuccess) :
    (serve routes perform answer request s).state = s := by
  cases hp : plan routes request with
  | error response => rw [serve_of_plan_eq_error hp]; rfl
  | ok call =>
    rw [serve_state_of_plan_eq_ok hp]
    cases hr : (perform call s).result with
    | error e => exact hfail call e hr
    | ok a =>
      obtain ⟨response, log, ha, hs⟩ := hworded a
      exact absurd ⟨deliver request response, serve_result_of_plan_eq_ok hp hr ha, hs⟩ h

end Serve

/-! ## Credentials -/

theorem int64?_eq_some_iff {n : Int} {i : Int64} : int64? n = some i ↔ n = i.toInt := by
  constructor
  · intro h
    unfold int64? at h
    split at h
    · rename_i hn
      cases h
      exact (Int64.toInt_ofInt_of_le hn.1 (Int.lt_of_le_of_lt hn.2 (by decide))).symm
    · cases h
  · rintro rfl
    exact int64?_toInt i

/-- The request names no user: the header is missing, or is not a 64-bit number between blanks. -/
def Request.Anonymous (request : Request) : Prop :=
  ∀ value, request.header? "x-user-id" = some value →
    ∀ user : Int64, Text.integer? (Text.trim value) ≠ some user.toInt

theorem caller?_eq_some_iff {user : Int64} : caller? request = some user ↔
    ∃ value, request.header? "x-user-id" = some value ∧
      Text.integer? (Text.trim value) = some user.toInt := by
  simp only [caller?, Option.bind_eq_some_iff, int64?_eq_some_iff]
  constructor
  · rintro ⟨_, ⟨value, hv, hn⟩, rfl⟩
    exact ⟨value, hv, hn⟩
  · rintro ⟨value, hv, hn⟩
    exact ⟨_, ⟨value, hv, hn⟩, rfl⟩

theorem anonymous_iff : request.Anonymous ↔ caller? request = none := by
  rw [Option.eq_none_iff_forall_ne_some]
  constructor
  · intro h user hu
    obtain ⟨value, hv, hn⟩ := caller?_eq_some_iff.mp hu
    exact h value hv user hn
  · intro h value hv user hn
    exact h user (caller?_eq_some_iff.mpr ⟨value, hv, hn⟩)

theorem caller_eq_ok_iff {user : Int64} :
    caller request = .ok user ↔ caller? request = some user := by
  unfold caller
  cases caller? request <;> simp

/-- The answer to a request that names no user, with the status 401. -/
def callerRefusal : Response := .error 401 "missing or invalid x-user-id header"

/-- Whatever would be done for the caller, the request is refused first. -/
theorem Request.Anonymous.caller_bind (h : request.Anonymous) {α : Type}
    (f : Int64 → Except Response α) : caller request >>= f = .error callerRefusal := by
  rw [caller, anonymous_iff.mp h]
  rfl

/-- The value of the first header of a name, whatever its characters. -/
def Request.rawHeader? (request : Request) (name : String) : Option String :=
  (request.headers.find? fun h => lower h.1 = lower name).map (·.2)

/-- Only a request whose first header is a secret, not the empty one, is the provider's. -/
theorem of_isProvider {secret : String} (h : isProvider secret request) :
    secret ≠ "" ∧ request.rawHeader? "x-webhook-secret" = some secret := by
  simp only [isProvider, Bool.and_eq_true, decide_eq_true_eq] at h
  obtain ⟨hne, hh⟩ := h
  obtain ⟨header, hfound, hv⟩ := Option.bind_eq_some_iff.mp hh
  refine ⟨hne, Option.map_eq_some_iff.mpr ⟨header, hfound, ?_⟩⟩
  unfold visible? at hv
  dsimp only at hv
  split at hv
  · exact String.toList_inj.mp (Option.some.inj hv)
  · cases hv

/-- The answer to a request that has to be the provider's and is not, with the status 401. -/
def providerRefusal : Response := .error 401 "invalid webhook credentials"

theorem checkProvider_bind {secret : String} (h : ¬ isProvider secret request) {α : Type}
    (f : Unit → Except Response α) :
    checkProvider secret request >>= f = .error providerRefusal := by
  rw [checkProvider, if_neg h]
  rfl

end Marketplace.Http
