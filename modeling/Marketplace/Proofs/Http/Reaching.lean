import Mathlib.Data.List.Forall2
import Marketplace.Order.Routes
import Marketplace.Premium.Routes
import Marketplace.Proofs.Http.Routing

/-!
# Which requests reach a route

`Reaches` follows the router. `reaches_iff` says the same in terms of the request: the segments of
its path fit the pattern and none of the patterns in front of it, and the route has its method.

* `UserPath` is the table of the paths of the basket and the orders, with their methods;
  `reaches_user_iff` says that they are what these routes handle.
* `reaches_checkout_iff` and `reaches_report_iff` are the two routes of the payment service that
  make a call. A report on a product called `periods` is a request for the catalogue, which does not
  have its method (`plan_catalogue_status`).
-/

namespace Marketplace.Http

variable {Call : Type} {routes : List (Route Call)} {route : Route Call} {pattern : List Segment}
  {segments : List (List Char)} {request : Request} {secret : String}

/-! ## In terms of segments and methods -/

/-- The segment may stand at this place of a pattern. -/
def Segment.Admits : Segment → List Char → Prop
  | fixed name, s => s = name.toList
  | parameter, _ => True

/-- The segments stand for those of the pattern, one by one. Only a parameter at the end cannot be
empty. -/
structure Fits (pattern : List Segment) (segments : List (List Char)) : Prop where
  admits : List.Forall₂ Segment.Admits pattern segments
  last : pattern.getLast? = some .parameter → segments.getLast? ≠ some []

/-- The method under which a request is handled. -/
def Request.handledAs (request : Request) : String :=
  if request.method = "HEAD" then "GET" else request.method

/-- The methods that a route has handlers for. -/
def Route.methods (route : Route Call) : List String := route.handlers.map (·.1)

@[simp] theorem Segment.fixed_admits_iff {name : String} {s : List Char} :
    (Segment.fixed name).Admits s ↔ s = name.toList := Iff.rfl

@[simp] theorem Segment.parameter_admits (s : List Char) : Segment.parameter.Admits s := trivial

@[simp] theorem fits_nil_iff : Fits [] segments ↔ segments = [] := by
  constructor
  · rintro ⟨⟨⟩, -⟩
    rfl
  · rintro rfl
    exact ⟨.nil, by simp⟩

@[simp] theorem not_fits_cons_nil {p : Segment} : ¬ Fits (p :: pattern) [] := by
  rintro ⟨⟨⟩, -⟩

theorem fits_cons_iff {p : Segment} {s : List Char} : Fits (p :: pattern) (s :: segments) ↔
    p.Admits s ∧ Fits pattern segments ∧ ¬ (p = .parameter ∧ s = [] ∧ segments = []) := by
  constructor
  · rintro ⟨_ | ⟨hs, hrest⟩, hlast⟩
    refine ⟨hs, ⟨hrest, fun hp hsegments => ?_⟩, ?_⟩
    · exact hlast (by simp [List.getLast?_cons, hp]) (by simp [List.getLast?_cons, hsegments])
    · rintro ⟨rfl, rfl, rfl⟩
      cases hrest
      exact hlast rfl rfl
  · rintro ⟨hs, ⟨hrest, hlast⟩, hempty⟩
    refine ⟨.cons hs hrest, fun hp hsegments => ?_⟩
    cases hrest with
    | nil => exact hempty ⟨Option.some.inj hp, Option.some.inj hsegments, rfl⟩
    | cons => exact hlast hp hsegments

theorem isSome_fit?_iff (pattern : List Segment) (segments : List (List Char)) :
    (fit? pattern segments).isSome ↔ Fits pattern segments := by
  fun_induction fit? pattern segments with
  | case1 => simp
  | case2 name pattern segments ih => simp [ih, fits_cons_iff]
  | case3 name pattern s segments hne => simp [fits_cons_iff, Ne.symm hne]
  | case4 pattern s segments hempty => simp [fits_cons_iff, hempty]
  | case5 pattern s segments hempty ih => simp [fits_cons_iff, ih, hempty]
  | case6 pattern segments hnil hfixed hparameter =>
    cases pattern with
    | nil => simpa using hnil rfl
    | cons p pattern =>
      cases segments with
      | nil => simp
      | cons s segments =>
        cases p with
        | fixed name => exact (hfixed name pattern s segments rfl rfl).elim
        | parameter => exact (hparameter pattern s segments rfl rfl).elim

theorem isSome_handler?_iff :
    (route.handler? request.method).isSome ↔ request.handledAs ∈ route.methods := by
  simp only [Route.handler?, List.lookup_isSome_iff, beq_iff_eq, Route.methods, List.mem_map,
    Request.handledAs]
  exact exists_congr fun p => and_congr_right fun _ => eq_comm

theorem fit?_eq_none_iff : fit? pattern segments = none ↔ ¬ Fits pattern segments := by
  rw [← isSome_fit?_iff, Option.not_isSome_iff_eq_none]

/-- The first route whose pattern fits is found. -/
theorem findRoute?_eq_some_iff {target : String} {params : List (List Char)} :
    findRoute? routes target = some (route, params) ↔
      ∃ segments before after, segments? target = some segments ∧
        routes = before ++ route :: after ∧ (∀ r ∈ before, ¬ Fits r.pattern segments) ∧
        fit? route.pattern segments = some params := by
  simp only [findRoute?, Option.bind_eq_some_iff, List.findSome?_eq_some_iff,
    Option.map_eq_some_iff, Option.map_eq_none_iff, fit?_eq_none_iff]
  constructor
  · rintro ⟨segments, hsegments, before, r, after, hroutes, ⟨_, hfit, heq⟩, hbefore⟩
    cases heq
    exact ⟨segments, before, after, hsegments, hroutes, hbefore, hfit⟩
  · rintro ⟨segments, before, after, hsegments, hroutes, hbefore, hfit⟩
    exact ⟨segments, hsegments, before, route, after, hroutes, ⟨params, hfit, rfl⟩, hbefore⟩

/-- A request reaches a pattern if the first route that its path fits has that pattern, and has its
method. -/
theorem reaches_iff : Reaches routes pattern request ↔
    ∃ segments before route after, segments? request.target = some segments ∧
      routes = before ++ route :: after ∧ (∀ r ∈ before, ¬ Fits r.pattern segments) ∧
      route.pattern = pattern ∧ Fits pattern segments ∧ request.handledAs ∈ route.methods := by
  constructor
  · rintro ⟨route, params, hfound, rfl, hmethod⟩
    obtain ⟨segments, before, after, hsegments, hroutes, hbefore, hfit⟩ :=
      findRoute?_eq_some_iff.mp hfound
    exact ⟨segments, before, route, after, hsegments, hroutes, hbefore, rfl,
      (isSome_fit?_iff _ _).mp (Option.isSome_of_eq_some hfit),
      isSome_handler?_iff.mp hmethod⟩
  · rintro ⟨segments, before, route, after, hsegments, hroutes, hbefore, rfl, hfits, hmethod⟩
    obtain ⟨params, hfit⟩ := Option.isSome_iff_exists.mp ((isSome_fit?_iff _ _).mpr hfits)
    exact ⟨route, params,
      findRoute?_eq_some_iff.mpr ⟨segments, before, after, hsegments, hroutes, hbefore, hfit⟩, rfl,
      isSome_handler?_iff.mpr hmethod⟩

/-! ## The routes of the services -/

/-- What the router looks at: the patterns of the routes, each with its methods. -/
def shapes (routes : List (Route Call)) : List (List Segment × List String) :=
  routes.map fun route => (route.pattern, route.methods)

/-- The first pattern that the segments fit, with its methods. -/
def findShape? (shapes : List (List Segment × List String)) (segments : List (List Char)) :
    Option (List Segment × List String) :=
  shapes.find? fun shape => (fit? shape.1 segments).isSome

theorem findShape?_eq_some_iff {methods : List String} :
    findShape? (shapes routes) segments = some (pattern, methods) ↔
      ∃ before route after, routes = before ++ route :: after ∧
        (∀ r ∈ before, ¬ Fits r.pattern segments) ∧ route.pattern = pattern ∧
          Fits pattern segments ∧ route.methods = methods := by
  simp only [findShape?, shapes, List.find?_map, Option.map_eq_some_iff,
    List.find?_eq_some_iff_append, Function.comp_apply, isSome_fit?_iff, Prod.mk.injEq,
    Bool.not_eq_true', ← Bool.not_eq_true]
  constructor
  · rintro ⟨route, ⟨hfits, before, after, hroutes, hbefore⟩, rfl, rfl⟩
    exact ⟨before, route, after, hroutes, hbefore, rfl, hfits, rfl⟩
  · rintro ⟨before, route, after, hroutes, hbefore, rfl, hfits, rfl⟩
    exact ⟨route, ⟨hfits, before, after, hroutes, hbefore⟩, rfl, rfl⟩

theorem reaches_iff_findShape? : Reaches routes pattern request ↔
    ∃ segments methods, segments? request.target = some segments ∧
      findShape? (shapes routes) segments = some (pattern, methods) ∧
        request.handledAs ∈ methods := by
  simp only [reaches_iff, findShape?_eq_some_iff]
  constructor
  · rintro ⟨segments, before, route, after, hsegments, hroutes, hbefore, hpattern, hfits, hmethod⟩
    exact ⟨segments, _, hsegments, ⟨before, route, after, hroutes, hbefore, hpattern, hfits, rfl⟩,
      hmethod⟩
  · rintro ⟨segments, _, hsegments, ⟨before, route, after, hroutes, hbefore, hpattern, hfits, rfl⟩,
      hmethod⟩
    exact ⟨segments, before, route, after, hsegments, hroutes, hbefore, hpattern, hfits, hmethod⟩

theorem handledAs_eq_iff {name : String} (hget : name ≠ "GET") (hhead : name ≠ "HEAD") :
    request.handledAs = name ↔ request.method = name := by
  unfold Request.handledAs
  split
  · rename_i h
    simp [h, hget.symm, hhead.symm]
  · rfl

/-! ## The order service -/

/-- The paths of the basket and the orders, with their methods. -/
inductive UserPath : List (List Char) → List String → Prop where
  | basket : UserPath ["basket".toList] ["POST", "GET"]
  | buy : UserPath ["basket".toList, "buy".toList] ["POST"]
  | bought : UserPath ["orders".toList] ["GET"]
  | sold : UserPath ["orders".toList, "sold".toList] ["GET"]
  | order {id : List Char} (hempty : id ≠ []) (hsold : id ≠ "sold".toList) :
      UserPath ["orders".toList, id] ["DELETE"]
  | count (id : List Char) : UserPath ["orders".toList, id, "count".toList] ["PUT"]
  | status (id : List Char) : UserPath ["orders".toList, id, "status".toList] ["PUT"]

theorem shapes_orderRoutes : shapes orderRoutes =
    [([.fixed "basket"], ["POST", "GET"]),
     ([.fixed "basket", .fixed "buy"], ["POST"]),
     ([.fixed "orders"], ["GET"]),
     ([.fixed "orders", .fixed "sold"], ["GET"]),
     ([.fixed "orders", .parameter], ["DELETE"]),
     ([.fixed "orders", .parameter, .fixed "count"], ["PUT"]),
     ([.fixed "orders", .parameter, .fixed "status"], ["PUT"]),
     ([.fixed "health"], ["GET"])] := rfl

theorem UserPath.findShape? {methods : List String} (h : UserPath segments methods) :
    ∃ name pattern, (name = "basket" ∨ name = "orders") ∧
      findShape? (shapes orderRoutes) segments = some (.fixed name :: pattern, methods) := by
  cases h with
  | basket => exact ⟨_, _, .inl rfl, rfl⟩
  | buy => exact ⟨_, _, .inl rfl, rfl⟩
  | bought => exact ⟨_, _, .inr rfl, rfl⟩
  | sold => exact ⟨_, _, .inr rfl, rfl⟩
  | @order id hempty hsold =>
    refine ⟨_, [.parameter], .inr rfl, ?_⟩
    have hbasket : "basket".toList ≠ "orders".toList := by decide
    simp [Http.findShape?, shapes_orderRoutes, fit?, hempty, Ne.symm hsold, hbasket,
      -String.reduceToList]
  | count id =>
    refine ⟨_, [.parameter, .fixed "count"], .inr rfl, ?_⟩
    simp [Http.findShape?, shapes_orderRoutes, fit?]
  | status id =>
    refine ⟨_, [.parameter, .fixed "status"], .inr rfl, ?_⟩
    simp [Http.findShape?, shapes_orderRoutes, fit?]

theorem userPath_of_findShape? {name : String} {methods : List String}
    (hname : name = "basket" ∨ name = "orders")
    (h : findShape? (shapes orderRoutes) segments = some (.fixed name :: pattern, methods)) :
    UserPath segments methods := by
  obtain ⟨-, -, -, -, -, -, hfits, -⟩ := findShape?_eq_some_iff.mp h
  have hmem := List.mem_of_find?_eq_some h
  simp only [shapes_orderRoutes, List.mem_cons, Prod.mk.injEq, List.cons.injEq,
    Segment.fixed.injEq, List.not_mem_nil, or_false] at hmem
  rcases hmem with ⟨⟨rfl, rfl⟩, rfl⟩ | ⟨⟨rfl, rfl⟩, rfl⟩ | ⟨⟨rfl, rfl⟩, rfl⟩ | ⟨⟨rfl, rfl⟩, rfl⟩ |
    ⟨⟨rfl, rfl⟩, rfl⟩ | ⟨⟨rfl, rfl⟩, rfl⟩ | ⟨⟨rfl, rfl⟩, rfl⟩ | ⟨⟨rfl, rfl⟩, rfl⟩
  · rcases hfits.admits with _ | ⟨rfl, _ | _⟩
    exact .basket
  · rcases hfits.admits with _ | ⟨rfl, _ | ⟨rfl, _ | _⟩⟩
    exact .buy
  · rcases hfits.admits with _ | ⟨rfl, _ | _⟩
    exact .bought
  · rcases hfits.admits with _ | ⟨rfl, _ | ⟨rfl, _ | _⟩⟩
    exact .sold
  · rcases hfits.admits with _ | ⟨rfl, _ | @⟨_, id, _, _, -, _ | _⟩⟩
    refine .order (fun hempty => hfits.last rfl (by simp [hempty])) ?_
    rintro rfl
    cases h
  · rcases hfits.admits with _ | ⟨rfl, _ | @⟨_, id, _, _, -, _ | ⟨rfl, _ | _⟩⟩⟩
    exact .count id
  · rcases hfits.admits with _ | ⟨rfl, _ | @⟨_, id, _, _, -, _ | ⟨rfl, _ | _⟩⟩⟩
    exact .status id
  · simp at hname

/-- The requests that the routes of the basket and the orders handle. -/
theorem reaches_user_iff :
    (∃ name pattern, (name = "basket" ∨ name = "orders") ∧
      Reaches orderRoutes (.fixed name :: pattern) request) ↔
    ∃ segments methods, segments? request.target = some segments ∧ UserPath segments methods ∧
      request.handledAs ∈ methods := by
  simp only [reaches_iff_findShape?]
  constructor
  · rintro ⟨name, pattern, hname, segments, methods, hsegments, hshape, hmethod⟩
    exact ⟨segments, methods, hsegments, userPath_of_findShape? hname hshape, hmethod⟩
  · rintro ⟨segments, methods, hsegments, hpath, hmethod⟩
    obtain ⟨name, pattern, hname, hshape⟩ := hpath.findShape?
    exact ⟨name, pattern, hname, segments, methods, hsegments, hshape, hmethod⟩

/-! ## The payment service -/

theorem shapes_paymentRoutes (secret : String) : shapes (paymentRoutes secret) =
    [([.fixed "premium", .fixed "periods"], ["GET"]),
     ([.fixed "premium", .fixed "periods", .parameter], ["GET"]),
     ([.fixed "premium", .fixed "checkout"], ["POST"]),
     ([.fixed "premium", .parameter, .fixed "status"], ["PUT"]),
     ([.fixed "health"], ["GET"])] := rfl

theorem reaches_checkout_iff :
    Reaches (paymentRoutes secret) [.fixed "premium", .fixed "checkout"] request ↔
      segments? request.target = some ["premium".toList, "checkout".toList] ∧
        request.method = "POST" := by
  have hshape : findShape? (shapes (paymentRoutes secret)) ["premium".toList, "checkout".toList]
      = some ([.fixed "premium", .fixed "checkout"], ["POST"]) := rfl
  have hpost : request.handledAs = "POST" ↔ request.method = "POST" :=
    handledAs_eq_iff (by decide) (by decide)
  rw [reaches_iff_findShape?]
  constructor
  · rintro ⟨segments, methods, hsegments, hfound, hmethod⟩
    obtain ⟨-, -, -, -, -, -, hfits, -⟩ := findShape?_eq_some_iff.mp hfound
    rcases hfits.admits with _ | ⟨rfl, _ | ⟨rfl, _ | _⟩⟩
    cases hshape.symm.trans hfound
    exact ⟨hsegments, hpost.mp (List.mem_singleton.mp hmethod)⟩
  · rintro ⟨hsegments, hmethod⟩
    exact ⟨_, _, hsegments, hshape, List.mem_singleton.mpr (hpost.mpr hmethod)⟩

theorem findShape?_report {id : List Char} (h : id ≠ "periods".toList) :
    findShape? (shapes (paymentRoutes secret)) ["premium".toList, id, "status".toList]
      = some ([.fixed "premium", .parameter, .fixed "status"], ["PUT"]) := by
  simp [findShape?, shapes_paymentRoutes, fit?, Ne.symm h, -String.reduceToList]

/-- A path with `periods` for the product is one of the catalogue. -/
theorem reaches_report_iff :
    Reaches (paymentRoutes secret) [.fixed "premium", .parameter, .fixed "status"] request ↔
      ∃ id, id ≠ "periods".toList ∧
        segments? request.target = some ["premium".toList, id, "status".toList] ∧
          request.method = "PUT" := by
  have hput : request.handledAs = "PUT" ↔ request.method = "PUT" :=
    handledAs_eq_iff (by decide) (by decide)
  rw [reaches_iff_findShape?]
  constructor
  · rintro ⟨segments, methods, hsegments, hfound, hmethod⟩
    obtain ⟨-, -, -, -, -, -, hfits, -⟩ := findShape?_eq_some_iff.mp hfound
    rcases hfits.admits with _ | ⟨rfl, _ | @⟨_, id, _, _, -, _ | ⟨rfl, _ | _⟩⟩⟩
    have hid : id ≠ "periods".toList := by
      rintro rfl
      cases hfound
    cases (findShape?_report hid).symm.trans hfound
    exact ⟨id, hid, hsegments, hput.mp (List.mem_singleton.mp hmethod)⟩
  · rintro ⟨id, hid, hsegments, hmethod⟩
    exact ⟨_, _, hsegments, findShape?_report hid, List.mem_singleton.mpr (hput.mpr hmethod)⟩

/-- The answer to a request for the catalogue by a method that it does not have. -/
def catalogueRefusal : Response := { Response.empty 405 with headers := [("allow", "GET,HEAD")] }

theorem plan_catalogue_status
    (h : segments? request.target = some ["premium".toList, "periods".toList, "status".toList])
    (hmethod : request.method = "PUT") :
    plan (paymentRoutes secret) request = .error catalogueRefusal := by
  unfold plan findRoute?
  rw [h, hmethod]
  rfl

end Marketplace.Http
