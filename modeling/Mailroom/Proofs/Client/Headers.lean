import Mailroom.Proofs.Call.Delivery
import Mailroom.Proofs.Client.Readiness
import Mailroom.Proofs.Config.Layers

/-!
# Which header the server gets

The headers of a message come from up to five layers: what a caller says of the call, the base
options of the client, what the configuration was resolved from, and the credentials. The layers are
merged in three places, each over names in any spelling, and the last merge happens on the wire. All
the same a message has every name once, with the entry of the highest layer that has it
(`headers_of_message`). Headers that cannot be sent keep a call from sending anything.
-/

namespace Mailroom

namespace Header

/-! ## Towers that share their upper layers -/

theorem heads_nil_cons {rest : List (Dict String)} {e : String × String} :
    Heads ([] :: rest) e ↔ Heads rest e := by
  simp [Heads, LastSpelled, Names]

/-- What heads a tower heads one with the same upper layers and more below. -/
theorem Heads.imp_lower (upper : List (Dict String)) {lower lower' : List (Dict String)}
    (h : ∀ e, Heads lower e → Heads lower' e) {e : String × String}
    (he : Heads (upper ++ lower) e) : Heads (upper ++ lower') e := by
  induction upper with
  | nil => exact h e he
  | cons top rest ih =>
    rcases he with htop | ⟨hunnamed, hrest⟩
    · exact Or.inl htop
    · exact Or.inr ⟨hunnamed, ih hrest⟩

/-- The names that the kind of a body and the connection decide on. -/
def reservedNames : List String :=
  ["connection", "content-length", "content-type", "host", "transfer-encoding"]

end Header

/-! ## Layers -/

namespace Config

/-- The layers that the headers of a configuration come from, the highest first: those it has, or
those of a caller and an environment that it was resolved from. -/
inductive HasLayers (c : Config) : List (Dict String) → Prop where
  | given (order : c.headers.Ascending) : HasLayers c [c.headers]
  | resolved {overrides : Overrides} {env : Environment} {layer : Dict String}
      (order : overrides.headers.Ascending) (resolves : resolve overrides env = .ok c)
      (adds : env.AddsHeaders layer) : HasLayers c [overrides.headers, layer]

/-- The headers of a resolved configuration are those of the caller over those of the environment.
-/
theorem headers_of_resolve {overrides : Overrides} {env : Environment} {layer : Dict String}
    {c : Config} (hc : resolve overrides env = .ok c) (hadds : env.AddsHeaders layer) :
    c.headers = Header.merge (Header.merge [] layer) overrides.headers := by
  have hh := Environment.headers_eq_ok_iff.mpr hadds
  cases ht : env.number? Environment.timeoutName (bitBound 64) with
  | error e => cases (resolve_of_timeout_error overrides ht).symm.trans hc
  | ok timeout =>
    cases hr : env.number? Environment.retriesName (bitBound 32) with
    | error e => cases (resolve_of_retries_error overrides ht hr).symm.trans hc
    | ok retries =>
      obtain rfl := Except.ok.inj ((resolve_of_read overrides ht hr hh).symm.trans hc)
      rfl

namespace HasLayers

variable {c : Config} {layers : List (Dict String)}

/-- Every layer, and what comes of them, is in the order of its spellings. -/
theorem ascending (h : c.HasLayers layers) :
    c.headers.Ascending ∧ ∀ layer ∈ layers, layer.Ascending := by
  cases h with
  | given order => exact ⟨order, by simpa using order⟩
  | @resolved overrides env layer order resolves adds =>
    refine ⟨?_, by simpa using ⟨order, adds.ascending⟩⟩
    rw [headers_of_resolve resolves adds]
    exact Header.ascending_merge (Header.ascending_merge Dict.ascending_nil _) _

/-- The headers of a configuration count like their layers, one over the other. -/
theorem heads_iff (h : c.HasLayers layers) {rest : List (Dict String)} {e : String × String} :
    Header.Heads (c.headers :: rest) e ↔ Header.Heads (layers ++ rest) e := by
  cases h with
  | given => rfl
  | resolved order resolves adds =>
    rw [headers_of_resolve resolves adds, Header.heads_merge_cons order]
    refine Header.heads_cons_congr (fun other => ?_) e
    rw [Header.heads_merge_cons adds.ascending]
    exact Header.heads_cons_congr (fun _ => Header.heads_nil_cons) other

end HasLayers

/-- The kind of body and the credentials are under the headers of a configuration. -/
theorem heads_requestHeaders {c : Config} (hc : c.headers.Ascending) {standard : String × String}
    (hstandard : standard ∈
      [("Authorization", c.authorization), ("Content-Type", "application/json")])
    {e : String × String} (he : Header.Heads [c.headers, [standard]] e) :
    Header.Heads [c.requestHeaders] e := by
  have hapart := sameName_standardHeaders
  have hapart' := (Header.sameName_comm _ _).trans hapart
  rw [requestHeaders, Header.heads_merge_cons hc, ofList_standardHeaders]
  refine Header.Heads.imp_lower [c.headers] (fun other hother => ?_) he
  obtain ⟨hmem, -⟩ := Header.heads_singleton.mp hother
  obtain rfl := List.mem_singleton.mp hmem
  refine Header.heads_singleton.mpr ⟨hstandard, ?_⟩
  rcases List.mem_pair.mp hstandard with rfl | rfl <;> simp [hapart, hapart']

theorem ascending_requestHeaders (c : Config) : c.requestHeaders.Ascending :=
  Header.ascending_merge (Dict.ascending_ofList _) _

end Config

namespace CallOptions

/-- A call would carry a header: it is the last of its name among the caller's, or it is one of the
base that the caller does not name. -/
def Carries (base caller : CallOptions) (e : String × String) : Prop :=
  Header.LastSpelled caller.headers e ∨ e ∈ base.headers ∧ ¬Header.Names caller.headers e.1

/-- The headers of layered options are those that a call would carry. -/
theorem mem_layered_headers_iff {base caller : CallOptions} (hcaller : caller.headers.Ascending)
    {e : String × String} : e ∈ (base.layered caller).headers ↔ base.Carries caller e := by
  rw [layered, Header.mem_merge_iff, Header.lastOf_iff_lastSpelled hcaller, Carries]

end CallOptions

namespace Client

variable {setup : ClientSetup} {client : Client} {call : Call} {options : CallOptions}

/-- The layers of a call's headers, the highest first. -/
def headerLayers (setup : ClientSetup) (options : CallOptions) (below : List (Dict String)) :
    List (Dict String) :=
  options.headers :: setup.baseOptions.headers ::
    (below ++ [[("Authorization", setup.config.authorization)]])

/-- The request of a call has the headers and the body of the layered options. -/
theorem layered_of_request (hmade : client.MadeOf setup) (hoptions : call.options = .ok options)
    {request : Request} (h : client.request call = .ok request) :
    request.headers = (setup.baseOptions.layered options).headers ∧
      request.body = (setup.baseOptions.layered options).body := by
  rw [request_of_options _ hoptions] at h
  obtain ⟨url, -, rfl⟩ := Outcome.map_eq_ok_iff.mp h
  rw [← hmade.baseOptions]
  exact ⟨rfl, rfl⟩

/-- What heads the layers of a call heads its request over the configuration. -/
theorem heads_of_headerLayers {below : List (Dict String)} (hbelow : setup.config.HasLayers below)
    (hcaller : options.headers.Ascending) {e : String × String}
    (he : Header.Heads (headerLayers setup options below) e) :
    Header.Heads [(setup.baseOptions.layered options).headers, setup.config.requestHeaders] e := by
  rw [CallOptions.layered, Header.heads_merge_cons hcaller]
  refine Header.Heads.imp_lower [options.headers, setup.baseOptions.headers]
    (fun other hother => ?_) he
  exact Config.heads_requestHeaders hbelow.ascending.1 List.mem_cons_self
    (hbelow.heads_iff.mpr hother)

/-- What was added to a session was written for the call. -/
theorem writes_of_sent {c : Channel} {s : Session c} {m : c.Message}
    (h : (client.perform s call).2.sent = s.sent ++ [m]) : Writes client c m call := by
  rcases (client.performed s call).sent with hsame | ⟨m', hwrites, hadded⟩
  · rw [hsame] at h
    exact absurd (congrArg List.length h) (by simp)
  · have hm : [m'] = [m] := List.append_cancel_left (hadded.symm.trans h)
    rwa [List.singleton_inj.mp hm] at hwrites

/-- The layers of a call are in the order of their spellings. -/
theorem ascending_of_mem_headerLayers {below : List (Dict String)}
    (hbelow : setup.config.HasLayers below) (hbase : setup.baseOptions.headers.Ascending)
    (hcaller : options.headers.Ascending) :
    ∀ layer ∈ headerLayers setup options below, layer.Ascending := by
  intro layer hlayer
  rcases List.mem_cons.mp hlayer with rfl | hlayer
  · exact hcaller
  rcases List.mem_cons.mp hlayer with rfl | hlayer
  · exact hbase
  rcases List.mem_append.mp hlayer with hlayer | hlayer
  · exact hbelow.ascending.2 layer hlayer
  · rw [List.mem_singleton.mp hlayer]
    exact List.pairwise_singleton _ _

/-- A message has what heads the layers, once and under its name. -/
theorem filter_of_writes (hmade : client.MadeOf setup) {below : List (Dict String)}
    (hbelow : setup.config.HasLayers below) (hbase : setup.baseOptions.headers.Ascending)
    (hoptions : call.options = .ok options) (hcaller : options.headers.Ascending)
    {m : Wire.Message} (hm : Writes client (Wire.channel setup.config) m call)
    {e : String × String} (he : Header.Heads (headerLayers setup options below) e)
    (hname : Text.asciiLowercase e.1 ∉ Header.reservedNames) :
    m.headers.filter (fun other => Header.sameName other.1 e.1) =
      [(Text.asciiLowercase e.1, e.2)] := by
  obtain ⟨request, hrequest, hwritten⟩ := hm
  obtain ⟨-, -, rfl⟩ := Wire.encode_eq_ok_iff.mp hwritten
  obtain ⟨hheaders, -⟩ := layered_of_request hmade hoptions hrequest
  have hascending : request.headers.Ascending := by
    rw [hheaders]
    exact Header.ascending_merge hbase _
  have hheads := heads_of_headerLayers hbelow hcaller he
  rw [← hheaders] at hheads
  refine Wire.filter_messageHeaders hascending (Config.ascending_requestHeaders _) hheads ?_
  rintro hkind
  exact hname (by rw [hkind]; decide)

/-- A request with a header that cannot be sent is not written. -/
theorem refused_of_carries (hmade : client.MadeOf setup) (hoptions : call.options = .ok options)
    (hcaller : options.headers.Ascending) {e : String × String}
    (he : setup.baseOptions.Carries options e) (hillegal : Header.illegal? e.1 e.2 ≠ none)
    {request : Request} (hrequest : client.request call = .ok request) :
    ∃ origin reason, (Wire.channel setup.config).encode request =
      .error (.config (.invalidHeaders origin reason)) := by
  have hmem : e ∈ request.headers := by
    rw [(layered_of_request hmade hoptions hrequest).1]
    exact (CallOptions.mem_layered_headers_iff hcaller).mpr he
  cases hfirst : Header.firstIllegal? request.headers with
  | none => exact absurd (Header.firstIllegal?_eq_none_iff.mp hfirst e hmem) hillegal
  | some cause =>
    obtain ⟨before, entry, after, -, hentry, -⟩ := Header.firstIllegal?_eq_some_iff.mp hfirst
    obtain ⟨origin, reason, rfl⟩ := Header.invalidHeaders_of_illegal? hentry
    exact ⟨origin, reason, Wire.encode_eq_error_iff.mpr (Or.inl ⟨_, hfirst, rfl⟩)⟩

/-! ## What the server gets -/

/--
Of every name that is not reserved and that a layer has, the message sent for a call has exactly one
entry, and its value is that of the highest layer with the name. A call whose headers are legal is
sent if its request can be built and the kind of its file is one. A call that would carry a header
that is illegal sends nothing. It fails for its headers if its request can be built, and else for
what its request lacks.
-/
theorem headers_of_message (hbuild : build setup = .ok client) {below : List (Dict String)}
    (hbelow : setup.config.HasLayers below) (hbase : setup.baseOptions.headers.Ascending)
    (hoptions : call.options = .ok options) (hcaller : options.headers.Ascending)
    (s : Session (Wire.channel setup.config)) :
    (∀ m : (Wire.channel setup.config).Message, (client.perform s call).2.sent = s.sent ++ [m] →
      ∀ name, Text.asciiLowercase name ∉ Header.reservedNames →
      (∃ layer ∈ headerLayers setup options below, Header.Names layer name) →
      ∃ e, Header.Heads (headerLayers setup options below) e ∧
        Header.sameName e.1 name = true ∧
        m.headers.filter (fun other => Header.sameName other.1 name) =
          [(Text.asciiLowercase name, e.2)]) ∧
    ((∀ e, setup.baseOptions.Carries options e → Header.illegal? e.1 e.2 = none) →
      ∀ request, client.request call = .ok request → Wire.illegalBody? request.body = none →
      ∃ m, (client.perform s call).2.sent = s.sent ++ [m]) ∧
    ∀ e, setup.baseOptions.Carries options e → Header.illegal? e.1 e.2 ≠ none →
      (client.perform s call).2 = s ∧
      (∀ request, client.request call = .ok request → ∃ origin reason,
        (client.perform s call).1 = .error (.config (.invalidHeaders origin reason))) ∧
      ∀ failure, client.request call = .error failure →
        (client.perform s call).1 = .error failure ∧ failure.kind = .contract := by
  have hmade := madeOf_of_build hbuild
  refine ⟨fun m hsent name hname hnamed => ?_, fun hlegal request hrequest hbody => ?_,
    fun e he hillegal => ?_⟩
  · obtain ⟨e, hheads, hsame⟩ := Header.exists_heads
      (ascending_of_mem_headerLayers hbelow hbase hcaller) hnamed
    have hlower := Header.sameName_iff.mp hsame
    have hfilter := filter_of_writes hmade hbelow hbase hoptions hcaller (writes_of_sent hsent)
      hheads (by rwa [hlower])
    refine ⟨e, hheads, hsame, ?_⟩
    simpa only [Header.sameName, hlower] using hfilter
  · have hheaders : Header.firstIllegal? request.headers = none := by
      rw [(layered_of_request hmade hoptions hrequest).1, Header.firstIllegal?_eq_none_iff]
      exact fun e he => hlegal e ((CallOptions.mem_layered_headers_iff hcaller).mp he)
    obtain ⟨m, hwritten⟩ : ∃ m, (Wire.channel setup.config).encode request = .ok m :=
      Wire.exists_encode_eq_ok _ hheaders hbody
    rw [perform_of_encode_eq_ok hrequest hwritten]
    exact ⟨m, rfl⟩
  · cases hrequest : client.request call with
    | error failure =>
      rw [perform_of_request_eq_error hrequest]
      refine ⟨rfl, fun request h => ?_, fun failure' h => ?_⟩
      · cases h
      · obtain rfl := Except.error.inj h
        exact ⟨rfl, request_eq_error hrequest⟩
    | ok request =>
      obtain ⟨origin, reason, hrefused⟩ :=
        refused_of_carries hmade hoptions hcaller he hillegal hrequest
      rw [perform_of_encode_eq_error hrequest hrefused]
      refine ⟨rfl, fun _ _ => ⟨origin, reason, rfl⟩, fun failure h => ?_⟩
      cases h

/-- A setup whose base options name a header of the configuration in another spelling. -/
def tenantSetup : ClientSetup :=
  ⟨tenantConfig, Catalog.table, ⟨[], [], none, [("X-TENANT", "b"), ("via", "d")]⟩, true⟩

theorem exists_build_tenantSetup : ∃ client, build tenantSetup = .ok client := by
  obtain ⟨base, hbase⟩ := exists_validate_tenantConfig
  exact exists_build_eq_ok_iff.mpr ⟨⟨base, Config.validate_eq_ok_iff.mp hbase⟩,
    sendable_iff.mpr fun _ => isLegal_requestHeaders_tenantConfig,
    ClientSetup.holds_catalog (by rw [tenantSetup])⟩

/-- Options that spell the header a third way. -/
def tenantOptions : CallOptions :=
  ⟨[], [], none, [("x-tenant", "c")]⟩

theorem exists_request_tenantOptions {client : Client} (hbuild : build tenantSetup = .ok client) :
    ∃ request, client.request (.list .list tenantOptions) = .ok request ∧ request.body = none := by
  have hmade := madeOf_of_build hbuild
  have hoptions : (Call.list .list tenantOptions).options = .ok tenantOptions := rfl
  have hparams : (client.bound (.common .list .list)).pathParams = [] :=
    hmade.pathParams_eq_nil (by rw [tenantSetup]) (show _ = "getLists" from rfl) (by decide +kernel)
  obtain ⟨url, hrequest⟩ := hmade.exists_request_of_pathParams hoptions hparams
  exact ⟨_, hrequest, rfl⟩

theorem isLegal_of_carries_tenantOptions {e : String × String}
    (he : tenantSetup.baseOptions.Carries tenantOptions e) : Header.illegal? e.1 e.2 = none := by
  rcases he with ⟨hmem, -⟩ | ⟨hmem, -⟩
  · rw [List.mem_singleton.mp hmem]
    decide +kernel
  · revert e
    decide +kernel

/-- Over three spellings of a name the server gets one entry, that of the call. -/
theorem headers_of_message_respelled :
    ∃ client, build tenantSetup = .ok client ∧
      ∃ m : (Wire.channel tenantConfig).Message,
        (client.perform (.start []) (.list .list tenantOptions)).2.sent = [m] ∧
        m.headers.filter (fun e => Header.sameName e.1 "X-Tenant") = [("x-tenant", "c")] := by
  obtain ⟨client, hbuild⟩ := exists_build_tenantSetup
  obtain ⟨request, hrequest, hbody⟩ := exists_request_tenantOptions hbuild
  have hbelow : tenantConfig.HasLayers [tenantConfig.headers] :=
    .given (List.pairwise_singleton _ _)
  have hbase : tenantSetup.baseOptions.headers.Ascending := List.pairwise_pair.mpr (by decide)
  have hcaller : tenantOptions.headers.Ascending := List.pairwise_singleton _ _
  have hoptions : (Call.list .list tenantOptions).options = .ok tenantOptions := rfl
  obtain ⟨hgets, hsends, -⟩ :=
    headers_of_message hbuild hbelow hbase hoptions hcaller (.start [])
  obtain ⟨m, hm⟩ := hsends (fun e he => isLegal_of_carries_tenantOptions he) request hrequest
    (by rw [hbody]; rfl)
  have hlower : Text.asciiLowercase "X-Tenant" = "x-tenant" := by decide +kernel
  have hsame : Header.sameName "x-tenant" "X-Tenant" = true := by
    rw [Header.sameName_eq_toList]
    decide
  have hnames : Header.Names tenantOptions.headers "X-Tenant" :=
    ⟨("x-tenant", "c"), List.mem_cons_self, hsame⟩
  obtain ⟨e, hheads, hname, hfilter⟩ := hgets m hm "X-Tenant" (by rw [hlower]; decide)
    ⟨tenantOptions.headers, List.mem_cons_self, hnames⟩
  refine ⟨client, hbuild, m, hm, ?_⟩
  rw [hfilter, hlower]
  rcases hheads with ⟨hmem, -⟩ | ⟨hunnamed, -⟩
  · rw [List.mem_singleton.mp hmem]
  · exact absurd ((Header.Names.congr hname).mpr hnames) hunnamed

/-- Options that have a header that cannot be sent and lack the number of a record. -/
def unnumberedOptions : CallOptions :=
  ⟨[], [], none, [("bad header", "x")]⟩

/-- What lacks the number of a record has no request. -/
theorem request_unnumberedOptions {client : Client}
    (hbuild : build (.standard tenantConfig) = .ok client) :
    client.request (.getById .list unnumberedOptions) =
      .error (.missingPathParam "getListById" "id") := by
  have hmade := madeOf_of_build hbuild
  obtain ⟨hmem, hname⟩ := hmade.bound_mem (ClientSetup.table_standard _) (.common .list .getById)
  have hop : client.bound (.common .list .getById) =
      ⟨"getListById", .get, "/lists/\x7bid\x7d"⟩ := by
    have hcatalog : ∀ op ∈ Catalog.operations, op.name = "getListById" →
        op = ⟨"getListById", .get, "/lists/\x7bid\x7d"⟩ := by
      decide +kernel
    exact hcatalog _ hmem hname
  have hsegments : Request.segments "getListById" []
      [.fixed "lists", .placeholder "id"] = .error (.missingPathParam "getListById" "id") := rfl
  have htemplate : Operation.template ⟨"getListById", .get, "/lists/{id}"⟩ =
      [.fixed "lists", .placeholder "id"] := by
    decide +kernel
  have hbase := Url.carriesPath_of_hasHost hmade.usable.host
  have hoptions : (Call.getById .list unnumberedOptions).options = .ok unnumberedOptions := rfl
  rw [request_of_options _ hoptions, prepare, hmade.baseOptions, Call.endpoint, hop]
  simp only [Request.prepare, Request.buildUrl, hbase, htemplate]
  rfl

/-- Not every call with a header that cannot be sent fails for its headers. -/
theorem not_invalidHeaders_of_illegal :
    ¬∀ (setup : ClientSetup) (client : Client), build setup = .ok client →
      ∀ (s : Session (Wire.channel setup.config)) (call : Call) (options : CallOptions),
        call.options = .ok options →
        (∃ e ∈ options.headers, Header.illegal? e.1 e.2 ≠ none) →
        ∃ origin reason,
          (client.perform s call).1 = .error (.config (.invalidHeaders origin reason)) := by
  intro hfails
  obtain ⟨client, hbuild⟩ := exists_build_tenantConfig
  have hillegal : ∃ e ∈ unnumberedOptions.headers, Header.illegal? e.1 e.2 ≠ none :=
    ⟨_, List.mem_cons_self, by decide⟩
  obtain ⟨origin, reason, hfailure⟩ :=
    hfails _ client hbuild (.start []) (.getById .list unnumberedOptions) _ rfl hillegal
  rw [perform_of_request_eq_error (request_unnumberedOptions hbuild)] at hfailure
  cases hfailure

end Client

end Mailroom
