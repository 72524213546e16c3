import Switchyard.Proofs.Route.Dispatch
import Switchyard.Proofs.Route.Shape

/-!
  Routes that no request ever reaches.

  A route shadows another if it answers whatever the other answers (`Shadows`).  The first route that answers
  is the one that counts, so a route that is shadowed by one before it may as well not be there
  (`NeverReached`), whatever other routes there are.  No two routes of a frozen router share a key, so a key
  tells which route is meant.

  * `neverReached_of_shadows` — a route behind one that shadows it is never reached;
  * `renamed_route_is_never_reached` — so it is with routes whose templates differ only in names.
-/

namespace Switchyard.Route

variable {σ : Type}

/-- The key of a route that is ready to serve. -/
def Compiled.key (c : Compiled σ) : Key := ⟨c.method, c.pattern.template, c.admin⟩

/-- A router without the route at a place of its table. -/
def Router.without (router : Router σ) (place : Nat) : Router σ :=
  ⟨⟨router.table.routes.eraseIdx place⟩⟩

/-- The first route answers whatever the second answers. -/
def Shadows (r r' : Route σ) : Prop :=
  ∀ i method path params, r'.Answers i method path params → ∃ params', r.Answers i method path params'

/-- No request ever reaches a route, which is at this place of a router's table. -/
structure NeverReached (router : Router σ) (r : Route σ) (place : Nat) : Prop where
  /-- The route is there. -/
  entry : ∃ c, router.table.routes[place]? = some c ∧ c.key = r.key ∧ c.callback = r.callback
  /-- No other place of the table has its key. -/
  alone : ∀ place' c, router.table.routes[place']? = some c → c.key = r.key → place' = place
  /-- On no interface does looking up come to it. -/
  missed : ∀ i method path c params, router.table.lookup i method path = some (c, params) → c.key ≠ r.key
  /-- Every request is dispatched as it is without the route. -/
  unneeded : ∀ o req, router.dispatch o req = (router.without place).dispatch o req

/-! ## Shadowed routes -/

/-- A route behind one that shadows it never answers first. -/
theorem not_answersFirst_of_shadows {earlier : List (Route σ)} {r r' : Route σ} (hr : r ∈ earlier)
    (hshadows : Shadows r r') {i : Interface} {method path : String} {params : Params} :
    ¬ AnswersFirst earlier r' i method path params := by
  rintro ⟨hanswers, hnone⟩
  obtain ⟨params', hanswers'⟩ := hshadows i method path params hanswers
  exact hnone r hr params' hanswers'

/-- Dispatching depends on what looking up finds. -/
theorem dispatch_congr {router router' : Router σ} {o : Options} {req : Http.Request}
    (h : router.table.lookup o.interface req.method req.target.path
      = router'.table.lookup o.interface req.method req.target.path) :
    router.dispatch o req = router'.dispatch o req := by
  rw [Router.dispatch, Router.dispatch, h]

/-! ## Places of a table -/

section Table

variable {outer inner : Http.Chain σ} {t : Table σ} {regs earlier later : List (Registered σ)} {p : Registered σ}
  {i : Interface} {method path : String} {params : Params}

theorem getElem?_of_split (hregs : regs = earlier ++ p :: later) : regs[earlier.length]? = some p := by
  rw [hregs]
  exact getElem?_behind earlier later p

theorem entry_of_split (htable : t.routes = regs.map (Registered.compile outer inner))
    (hregs : regs = earlier ++ p :: later) : t.routes[earlier.length]? = some (p.compile outer inner) := by
  rw [htable, List.getElem?_map, getElem?_of_split hregs]
  rfl

/-- The key tells the place. -/
theorem place_of_key (hnodup : (regs.map fun p => p.route.key).Nodup) {place place' : Nat} {p' : Registered σ}
    (hp : regs[place]? = some p) (hp' : regs[place']? = some p') (hkey : p.route.key = p'.route.key) :
    place = place' := by
  have hat : (regs.map fun p => p.route.key)[place]? = some p.route.key := by
    rw [List.getElem?_map, hp]
    rfl
  have hat' : (regs.map fun p => p.route.key)[place']? = some p.route.key := by
    rw [List.getElem?_map, hp', hkey]
    rfl
  have hplace : place < (regs.map fun p => p.route.key).length := (List.getElem?_eq_some_iff.mp hat).1
  exact (List.getElem?_inj hplace hnodup).mp (hat.trans hat'.symm)

/-- No other place has the key of a registered route. -/
theorem alone_of_nodup (htable : t.routes = regs.map (Registered.compile outer inner))
    (hnodup : (regs.map fun p => p.route.key).Nodup) (hregs : regs = earlier ++ p :: later) {place : Nat}
    {c : Compiled σ} (hc : t.routes[place]? = some c) (hkey : c.key = p.route.key) :
    place = earlier.length := by
  rw [htable, List.getElem?_map] at hc
  obtain ⟨p', hp', rfl⟩ := Option.map_eq_some_iff.mp hc
  exact place_of_key hnodup hp' (getElem?_of_split hregs) hkey

/-- Looking up does not come to a route that does not answer first. -/
theorem missed_of_not_first (htable : t.routes = regs.map (Registered.compile outer inner))
    (hnodup : (regs.map fun p => p.route.key).Nodup) (hregs : regs = earlier ++ p :: later)
    (hnever : ∀ params, ¬ AnswersFirst (earlier.map Registered.route) p.route i method path params)
    {c : Compiled σ} (hc : t.lookup i method path = some (c, params)) : c.key ≠ p.route.key := by
  obtain ⟨earlier', p', later', hregs', rfl, hfirst⟩ := (lookup_eq_some_iff htable).mp hc
  intro hkey
  have hlength := place_of_key hnodup (getElem?_of_split hregs') (getElem?_of_split hregs) hkey
  obtain ⟨rfl, hrest⟩ := List.append_inj (hregs'.symm.trans hregs) hlength
  obtain ⟨rfl, -⟩ := List.cons.inj hrest
  exact hnever params hfirst

/-- Nor does it matter that the route is there. -/
theorem lookup_eraseIdx (htable : t.routes = regs.map (Registered.compile outer inner))
    (hregs : regs = earlier ++ p :: later)
    (hnever : ∀ params, ¬ AnswersFirst (earlier.map Registered.route) p.route i method path params) :
    t.lookup i method path = (⟨t.routes.eraseIdx earlier.length⟩ : Table σ).lookup i method path := by
  have herase : t.routes.eraseIdx earlier.length
      = earlier.map (Registered.compile outer inner) ++ later.map (Registered.compile outer inner) := by
    rw [htable, hregs, List.map_append, List.map_cons, List.eraseIdx_append_of_length_le (by simp),
      List.length_map, Nat.sub_self]
    rfl
  rw [lookup_eq_findSome?, lookup_eq_findSome?, herase, htable, hregs, List.map_append, List.map_cons,
    List.findSome?_append, List.findSome?_append, List.findSome?_cons]
  cases hearlier : (earlier.map (Registered.compile outer inner)).findSome? (Compiled.attempt i method path) with
  | some found => rfl
  | none =>
    have hnone : Unanswered (earlier.map Registered.route) i method path := by
      have hlookup : (⟨earlier.map (Registered.compile outer inner)⟩ : Table σ).lookup i method path = none :=
        (lookup_eq_findSome? _ i method path).trans hearlier
      exact (lookup_eq_none_iff rfl).mp hlookup
    have hp : (p.compile outer inner).attempt i method path = none :=
      attempt_compile_eq_none_iff.mpr fun params hanswers => hnever params ⟨hanswers, hnone⟩
    rw [hp]

end Table

/-! ## Frozen routers -/

section Frozen

variable {calls : List (BuildCall σ)} {router : Router σ} {before between after : List (Route σ)}
  {r r' : Route σ}

/-- **A route behind one that shadows it is never reached**, whatever routes there are before, between and
    after the two. -/
theorem neverReached_of_shadows (hfreeze : (built calls).freeze.result = .ok router)
    (hroutes : acceptedRoutes calls = before ++ r :: (between ++ r' :: after)) (hshadows : Shadows r r') :
    NeverReached router r' (before ++ r :: between).length := by
  obtain ⟨resolver, -, htable⟩ := router_of_freeze hfreeze
  have hsplit : acceptedRoutes calls = (before ++ r :: between) ++ r' :: after := by
    rw [hroutes, List.append_assoc]
    rfl
  obtain ⟨earlier, global, later, hregs, hearlier⟩ := registered_of_acceptedRoutes hsplit
  have hplace : (before ++ r :: between).length = earlier.length := by rw [← hearlier, List.length_map]
  have hnodup : ((registered [] (accepted calls)).map fun p => p.route.key).Nodup := by
    have h := nodup_keys_of_freeze hfreeze
    rwa [acceptedRoutes, ← map_route_registered [], List.map_map] at h
  have hmem : r ∈ earlier.map Registered.route := by
    rw [hearlier]
    exact List.mem_append_right before List.mem_cons_self
  have hnever : ∀ {i method path} params,
      ¬ AnswersFirst (earlier.map Registered.route) r' i method path params :=
    fun _ => not_answersFirst_of_shadows hmem hshadows
  rw [hplace]
  constructor
  · exact ⟨_, entry_of_split htable hregs, rfl, rfl⟩
  · intro place c
    exact alone_of_nodup htable hnodup hregs
  · intro i method path c params
    exact missed_of_not_first htable hnodup hregs hnever
  · intro o req
    exact dispatch_congr (lookup_eraseIdx htable hregs hnever)

/-- A route shadows those whose templates differ only in names, for the same method on the same interface. -/
theorem shadows_of_renamed {template template' : String} (h : Pattern.compile template = .ok r.pattern)
    (h' : Pattern.compile template' = .ok r'.pattern) (hrenamed : Template.Renamed template template')
    (hmethod : r.method = r'.method) (hadmin : r.admin = r'.admin) : Shadows r r' := by
  rintro i method path params ⟨hinterface, hserved, hpath⟩
  have hsome := Template.isSome_of_renamed h h' hrenamed path
  rw [hpath] at hsome
  obtain ⟨params', hparams'⟩ := Option.isSome_iff_exists.mp hsome
  exact ⟨params', hadmin ▸ hinterface, hmethod.trans hserved, hparams'⟩

/-- **Renamed templates are fully shadowed.**  Templates that differ only in the names of their parameters and
    in the spelling of the wildcard match the same paths with the same values.  So in a frozen router, of two
    routes with such templates, for one method and on one interface, the one that was accepted later is never
    reached, whatever routes there are before, between and after the two. -/
theorem renamed_route_is_never_reached {template template' : String} {pattern pattern' : Pattern}
    (h : Pattern.compile template = .ok pattern) (h' : Pattern.compile template' = .ok pattern')
    (hrenamed : Template.Renamed template template') :
    (∀ path, (pattern.matchPath? path).map Params.values = (pattern'.matchPath? path).map Params.values) ∧
    ∀ (calls : List (BuildCall σ)) (router : Router σ), (built calls).freeze.result = .ok router →
      ∀ before r between r' after, acceptedRoutes calls = before ++ r :: (between ++ r' :: after) →
        r.pattern = pattern → r'.pattern = pattern' → r.method = r'.method → r.admin = r'.admin →
        NeverReached router r' (before ++ r :: between).length := by
  refine ⟨Template.values_of_renamed h h' hrenamed, ?_⟩
  rintro calls router hfreeze before r between r' after hroutes rfl rfl hmethod hadmin
  exact neverReached_of_shadows hfreeze hroutes (shadows_of_renamed h h' hrenamed hmethod hadmin)

/-- The second of two such routes, with another one between them. -/
theorem renamed_route_is_never_reached_between :
    let reply (status : Http.Status) : Http.Handler Unit := fun _ => .done (.ok (.empty status))
    let first : Route Unit :=
      { name := "first", method := "GET", callback := reply 200
        pattern := .parameterized "/x/:a/*" [.literal "x", .param "a", .wildcard] ["a", "*"] }
    let ping : Route Unit :=
      { name := "ping", method := "GET", pattern := .constant "/ping", callback := reply 204 }
    let second : Route Unit :=
      { name := "second", method := "GET", callback := reply 201
        pattern := .parameterized "/x/:b/:*" [.literal "x", .param "b", .wildcard] ["b", "*"] }
    ∃ router, (built [.add first, .add ping, .add second]).freeze.result = .ok router ∧
      router.routes.length = 3 ∧ NeverReached router second 2 := by
  intro reply first ping second
  have h : Pattern.compile "/x/:a/*" = .ok first.pattern := rfl
  have h' : Pattern.compile "/x/:b/:*" = .ok second.pattern := rfl
  have hrenamed : Template.Renamed "/x/:a/*" "/x/:b/:*" := by
    have hpieces : Template.pieces "/x/:a/*" = ["x", ":a", "*"] := rfl
    have hpieces' : Template.pieces "/x/:b/:*" = ["x", ":b", ":*"] := rfl
    have ha : Template.IsParam ":a" "a" := ⟨rfl, by decide⟩
    have hb : Template.IsParam ":b" "b" := ⟨rfl, by decide⟩
    rw [Template.Renamed, hpieces, hpieces']
    exact .cons (.same "x") (.cons (.param ha hb) (.cons (.wildcard (Or.inl rfl) (Or.inr rfl)) .nil))
  have hfreeze : (built [.add first, .add ping, .add second]).freeze.result = .ok _ := rfl
  obtain ⟨-, hnever⟩ := renamed_route_is_never_reached (σ := Unit) h h' hrenamed
  exact ⟨_, hfreeze, rfl, hnever _ _ hfreeze [] first [ping] second [] rfl rfl rfl rfl rfl⟩

end Frozen
end Switchyard.Route
