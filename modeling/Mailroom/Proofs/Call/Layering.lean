import Mailroom.Call.Options
import Mailroom.Proofs.Http.Precedence

/-!
# One layer of options over another

A caller's options lie over base options. Values of the path and the query are a caller's wherever
it gives one, be it null. A header that a caller names is the caller's alone, in whatever spelling
the base has it. Two bodies that are objects are put together field by field; a caller's body of any
other kind, or over one of any other kind, takes the place of the base's. Options without anything
change nothing on either side, and of three layers the upper two may be put together first, as far
as path, query and headers go.
-/

namespace Mailroom.CallOptions

/-! ## What options are like -/

/-- Options list their entries in the order of their names, and so does a body that is an object. -/
structure Ordered (o : CallOptions) : Prop where
  path : o.path.Ascending
  query : o.query.Ascending
  headers : o.headers.Ascending
  body : ∀ fields : Dict Json, o.body = some (.json (.obj fields)) → fields.Ascending

/-- One thing that is said of a call. The number of a record is a value of the path. -/
inductive Setting where
  | path (name : String) (value : Json)
  | query (name : String) (value : Json)
  | json (value : Json)
  | multipart (form : Multipart)
  | header (name value : String)

/-- Options with one more thing said. -/
def say (o : CallOptions) (setting : Setting) : CallOptions :=
  match setting with
  | .path name value => o.withPath name value
  | .query name value => o.withQuery name value
  | .json value => o.withJson value
  | .multipart form => o.withMultipart form
  | .header name value => o.withHeader name value

/-- The options of what is said, one thing after the other. -/
def built (settings : List Setting) : CallOptions :=
  settings.foldl say empty

/-- Options have every name once, a header in one spelling. -/
structure Single (o : CallOptions) : Prop where
  path : o.path.Ascending
  query : o.query.Ascending
  headers : o.headers.Ascending
  spellings : Header.Distinct o.headers

/-- Saying one more thing keeps every name to one entry. -/
theorem Single.say {o : CallOptions} (h : o.Single) (setting : Setting) :
    (o.say setting).Single := by
  cases setting with
  | path name value => exact { h with path := h.path.insert name value }
  | query name value => exact { h with query := h.query.insert name value }
  | json value => exact ⟨h.path, h.query, h.headers, h.spellings⟩
  | multipart form => exact ⟨h.path, h.query, h.headers, h.spellings⟩
  | header name value =>
    exact { h with
      headers := Header.ascending_merge h.headers [(name, value)]
      spellings := h.spellings.put name value }

/-- What is said of a call leaves every name with one entry. -/
theorem single_built (settings : List Setting) : (built settings).Single := by
  have hempty : empty.Single :=
    ⟨Dict.ascending_nil, Dict.ascending_nil, Dict.ascending_nil, Header.distinct_nil⟩
  unfold built
  generalize empty = o at hempty
  induction settings generalizing o with
  | nil => exact hempty
  | cons setting rest ih => exact ih _ (hempty.say setting)

/-! ## Bodies -/

/-- Over no body a caller's stays as it is. -/
@[simp] theorem layeredBody_none (body : Option Body) : layeredBody none body = body := by
  cases body <;> rfl

/-- The body that comes of a base's and a caller's. -/
inductive LaidBody : Option Body → Option Body → Option Body → Prop where
  | kept (base : Option Body) : LaidBody base none base
  | united {below above fields : Dict Json} (order : fields.Ascending)
      (each : ∀ key, Dict.find? fields key = (Dict.find? above key).or (Dict.find? below key)) :
      LaidBody (some (.json (.obj below))) (some (.json (.obj above)))
        (some (.json (.obj fields)))
  | replaced {base : Option Body} {above : Body}
      (apart : ∀ below fields, base = some (.json (.obj below)) → above ≠ .json (.obj fields)) :
      LaidBody base (some above) (some above)

theorem laidBody_layered {base caller : CallOptions} (hbase : base.Ordered)
    (hcaller : caller.Ordered) :
    LaidBody base.body caller.body (base.layered caller).body := by
  change LaidBody _ _ (layeredBody base.body caller.body)
  unfold layeredBody
  split
  · next below above hbelow habove =>
    rw [hbelow, habove]
    exact .united ((hbase.body below hbelow).insertAll above) fun key =>
      Dict.find?_insertAll below (hcaller.body above habove) key
  · next hnone =>
    rw [hnone]
    exact .kept _
  · next hnone hapart =>
    cases hbody : caller.body with
    | none => exact absurd hbody hnone
    | some above =>
      refine .replaced fun below fields hbelow habove => ?_
      exact hapart below fields hbelow (hbody.trans (congrArg some habove))

/-! ## Layers -/

variable {base caller : CallOptions}

/-- Layered options list their entries in order. -/
theorem Ordered.layered (hbase : base.Ordered) (hcaller : caller.Ordered) :
    (base.layered caller).Ordered where
  path := hbase.path.insertAll caller.path
  query := hbase.query.insertAll caller.query
  headers := Header.ascending_merge hbase.headers caller.headers
  body fields hfields := by
    have hbody := laidBody_layered hbase hcaller
    rw [hfields] at hbody
    generalize hbelow : base.body = below at hbody
    generalize habove : caller.body = above at hbody
    cases hbody with
    | kept => exact hbase.body fields hbelow
    | united order each => exact order
    | replaced apart => exact hcaller.body fields habove

/-- The entries of a name are the caller's last spelling of it, or else what the base has. -/
theorem filter_headers_layered (hcaller : caller.Ordered) (name : String) :
    (∃ e, Header.LastSpelled caller.headers e ∧ Header.sameName e.1 name = true ∧
      (base.layered caller).headers.filter (fun other => Header.sameName other.1 name) = [e]) ∨
    ¬Header.Names caller.headers name ∧
      (base.layered caller).headers.filter (fun other => Header.sameName other.1 name) =
        base.headers.filter fun other => Header.sameName other.1 name := by
  by_cases hnames : Header.Names caller.headers name
  · obtain ⟨e, hlast, hname, honly⟩ := Header.exists_filter_merge hnames base.headers
    exact Or.inl ⟨e, (Header.lastOf_iff_lastSpelled hcaller.headers).mp hlast, hname, honly⟩
  · exact Or.inr ⟨hnames, Header.filter_merge_of_not_names hnames base.headers⟩

/-- Options over which nothing lies stay as they are. -/
theorem layered_empty (base : CallOptions) : base.layered empty = base := by
  obtain ⟨path, query, body, headers⟩ := base
  have hbody : layeredBody body none = body := by
    unfold layeredBody
    split
    · next h => cases h
    · rfl
    · next hnone _ => exact absurd rfl hnone
  simp only [layered, empty, hbody]
  rfl

/-- Options that have every name once are what comes of them over nothing. -/
theorem Single.empty_layered {o : CallOptions} (h : o.Single) : empty.layered o = o := by
  obtain ⟨path, query, body, headers⟩ := o
  simp only [layered, empty, layeredBody_none, h.spellings.merge_nil h.headers]
  exact congrArg₂ (fun path query => CallOptions.mk path query body headers)
    h.path.ofList_eq h.query.ofList_eq

/--
Layered options have what the caller gives for a name and else what the base gives: for values of
the path and the query, null among them, and for headers, where every spelling of a name counts as
the name and the caller's last one stays alone. Bodies are put together where both are objects. So
nothing over a base leaves the base, options that were built are the same over nothing, and three
layers come to the same path, query and headers in whatever order they are put together.
-/
theorem layered_takes_caller_else_base (hbase : base.Ordered) (hcaller : caller.Ordered) :
    (base.layered caller).Ordered ∧
    (∀ key, Dict.find? (base.layered caller).path key =
      (Dict.find? caller.path key).or (Dict.find? base.path key)) ∧
    (∀ key, Dict.find? (base.layered caller).query key =
      (Dict.find? caller.query key).or (Dict.find? base.query key)) ∧
    (∀ name,
      (∃ e, Header.LastSpelled caller.headers e ∧ Header.sameName e.1 name = true ∧
        (base.layered caller).headers.filter (fun other => Header.sameName other.1 name) = [e]) ∨
      ¬Header.Names caller.headers name ∧
        (base.layered caller).headers.filter (fun other => Header.sameName other.1 name) =
          base.headers.filter fun other => Header.sameName other.1 name) ∧
    LaidBody base.body caller.body (base.layered caller).body ∧
    base.layered empty = base ∧
    (∀ settings, empty.layered (built settings) = built settings) ∧
    ∀ top : CallOptions, top.Ordered →
      ((base.layered caller).layered top).path = (base.layered (caller.layered top)).path ∧
      ((base.layered caller).layered top).query = (base.layered (caller.layered top)).query ∧
      ((base.layered caller).layered top).headers =
        (base.layered (caller.layered top)).headers := by
  refine ⟨hbase.layered hcaller, fun key => Dict.find?_insertAll base.path hcaller.path key,
    fun key => Dict.find?_insertAll base.query hcaller.query key,
    filter_headers_layered hcaller, laidBody_layered hbase hcaller, layered_empty base,
    fun settings => (single_built settings).empty_layered, fun top htop => ⟨?_, ?_, ?_⟩⟩
  · exact hbase.path.insertAll_assoc hcaller.path htop.path
  · exact hbase.query.insertAll_assoc hcaller.query htop.query
  · exact Header.merge_assoc hbase.headers hcaller.headers htop.headers

/-- Base options with a header, a parameter and a body that is an object. -/
def pagedOptions : CallOptions :=
  ⟨[], [("page", .ofNat 1)], some (.json (.obj [("name", .str "a"), ("tags", .arr [])])),
    [("X-Tenant", "a")]⟩

/-- Options with two spellings of the header, null for the parameter and a field of the body. -/
def respelledOptions : CallOptions :=
  ⟨[], [("page", .null)], some (.json (.obj [("name", .str "b")])),
    [("X-TENANT", "b"), ("x-tenant", "c")]⟩

/-- The header is sent as it is spelled last, null hides the parameter, and the body has the field
of the caller beside the other one of the base. -/
theorem layered_takes_caller_else_base_respelled : pagedOptions.Ordered ∧ respelledOptions.Ordered ∧
    Dict.find? (pagedOptions.layered respelledOptions).query "page" = some .null ∧
    (pagedOptions.layered respelledOptions).headers.filter
      (fun e => Header.sameName e.1 "X-Tenant") = [("x-tenant", "c")] ∧
    ∃ fields, (pagedOptions.layered respelledOptions).body = some (.json (.obj fields)) ∧
      Dict.find? fields "name" = some (.str "b") ∧ Dict.find? fields "tags" = some (.arr []) := by
  have hpaged : pagedOptions.Ordered := by
    refine ⟨List.Pairwise.nil, List.pairwise_singleton _ _, List.pairwise_singleton _ _, ?_⟩
    rintro _ ⟨⟩
    exact List.pairwise_pair.mpr (by decide)
  have hrespelled : respelledOptions.Ordered := by
    refine ⟨List.Pairwise.nil, List.pairwise_singleton _ _, List.pairwise_pair.mpr (by decide), ?_⟩
    rintro _ ⟨⟩
    exact List.pairwise_singleton _ _
  obtain ⟨-, -, hquery, hheaders, hbody, -⟩ := layered_takes_caller_else_base hpaged hrespelled
  have hsame : Header.sameName "x-tenant" "X-Tenant" = true := by
    rw [Header.sameName_eq_toList]
    decide
  refine ⟨hpaged, hrespelled, hquery "page", ?_, ?_⟩
  · rcases hheaders "X-Tenant" with ⟨e, hlast, hname, hfilter⟩ | ⟨hunnamed, -⟩
    · have hcases : e = ("X-TENANT", "b") ∨ e = ("x-tenant", "c") := by
        simpa [respelledOptions] using hlast.1
      rcases hcases with rfl | rfl
      · have hspelled : Header.sameName "x-tenant" "X-TENANT" = true := by
          rw [Header.sameName_eq_toList]
          decide
        have hle := hlast.2 _ (List.mem_cons_of_mem _ List.mem_cons_self) hspelled
        exact absurd hle (by decide)
      · exact hfilter
    · exact absurd ⟨_, List.mem_cons_of_mem _ List.mem_cons_self, hsame⟩ hunnamed
  · generalize (pagedOptions.layered respelledOptions).body = body at hbody
    cases hbody with
    | united order each => exact ⟨_, rfl, each "name", each "tags"⟩
    | replaced apart => exact absurd rfl (apart _ _ rfl)

end Mailroom.CallOptions
