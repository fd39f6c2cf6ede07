import Mailroom.Proofs.Client.Headers

/-!
# Which kind of body the server is told

The kind of a body is the one header that the layers alone do not decide. A body of JSON names its
kind where the call does not, and that comes before the configuration fills in what is missing. So a
configured kind reaches the server with the calls that have no body, and with no others. A form
names its kind behind the one of the call.
-/

namespace Mailroom

namespace Header

/-- The layers have a value for a name: that of the entry which heads them under the name. -/
def Gives (layers : List (Dict String)) (name value : String) : Prop :=
  ∃ e, Heads layers e ∧ sameName e.1 name = true ∧ e.2 = value

theorem not_gives_of_not_names {layers : List (Dict String)} {name : String}
    (h : ∀ layer ∈ layers, ¬Names layer name) (value : String) : ¬Gives layers name value := by
  rintro ⟨e, hheads, hname, -⟩
  induction layers with
  | nil => exact hheads
  | cons top rest ih =>
    rcases hheads with hlast | ⟨-, hrest⟩
    · exact h top List.mem_cons_self ⟨e, hlast.1, hname⟩
    · exact ih (fun layer hlayer => h layer (List.mem_cons_of_mem _ hlayer)) hrest

end Header

namespace Wire

/-- The kind of a form. -/
def formKind : String := "multipart/form-data; boundary=" ++ boundary

/-- The kinds of body that a message names. -/
def Message.kinds (m : Message) : List String :=
  (m.headers.filter fun e => Header.sameName e.1 "Content-Type").map Prod.snd

/-- The kinds named for a body, where a call and a configuration may each name one. -/
def kindsOf (own configured : Option String) (body : Option Body) : List String :=
  match body with
  | some (.json _) => [own.getD "application/json"]
  | some (.multipart _) => own.toList ++ [formKind]
  | none => (own.or configured).toList

/-! ## From a request to its message -/

/-- In an ascending list an entry is added behind the one of its name. -/
theorem under_addHeader_of_ascending {headers : Dict String} (h : headers.Ascending)
    (name value : String) :
    under name (addHeader headers name value) = under name headers ++ [(name, value)] := by
  induction headers with
  | nil =>
    rw [addHeader, under_cons, if_pos rfl]
    rfl
  | cons e rest ih =>
    have horder := List.pairwise_cons.mp h
    rw [addHeader]
    split
    · next hlt =>
      have hnone : under name (e :: rest) = [] := by
        refine List.filter_eq_nil_iff.mpr fun other hother hname => ?_
        have hle : name < other.1 := by
          rcases List.mem_cons.mp hother with rfl | hother
          · exact hlt
          · exact String.lt_trans hlt (horder.1 other hother)
        exact String.lt_irrefl _ (of_decide_eq_true hname ▸ hle)
      rw [under_cons, if_pos rfl, hnone]
      rfl
    · rw [under_cons, under_cons, ih horder.2]
      split <;> rfl

/-- What the body of a request adds to the kind that the request names. -/
theorem under_kind_requestHeaders (request : Request) :
    under "content-type" (requestHeaders request) =
      (kindsOf (Dict.find? (lowerHeaders request.headers) "content-type") none request.body).map
        fun kind => ("content-type", kind) := by
  have hown := under_of_ascending (ascending_lowerHeaders request.headers) "content-type"
  rcases hbody : request.body with _ | value | form <;> simp only [requestHeaders, kindsOf, hbody]
  · rw [hown]
    cases Dict.find? (lowerHeaders request.headers) "content-type" <;> rfl
  · rw [under_fillHeader, hown]
    cases Dict.find? (lowerHeaders request.headers) "content-type" <;> rfl
  · rw [under_addHeader_of_ascending (ascending_lowerHeaders _), hown]
    cases Dict.find? (lowerHeaders request.headers) "content-type" <;> rfl

/-- A message names what its body is named by the request and the configuration. -/
theorem kinds_of_encode {config : Config} {request : Request} {m : Message}
    (h : encode config request = .ok m) :
    m.kinds = kindsOf (Dict.find? (lowerHeaders request.headers) "content-type")
      (Dict.find? (defaultHeaders config) "content-type") request.body := by
  obtain ⟨-, -, rfl⟩ := encode_eq_ok_iff.mp h
  have hlower : Text.asciiLowercase "Content-Type" = "content-type" := by decide +kernel
  rw [Message.kinds, (lowered_messageHeaders config request).filter_sameName, hlower,
    messageHeaders, under_foldl_fillHeader (ascending_defaultHeaders config).nodup_keys,
    under_of_ascending (ascending_defaultHeaders config), under_kind_requestHeaders]
  unfold kindsOf
  cases Dict.find? (lowerHeaders request.headers) "content-type" <;>
    cases Dict.find? (defaultHeaders config) "content-type" <;>
    rcases request.body with _ | _ | _ <;> rfl

/-- Lower-case names keep the value that a map has for the kind of a body. -/
theorem find?_kind_lowerHeaders {headers : HeaderMap} (h : headers.Ascending) {kind : String} :
    Dict.find? (lowerHeaders headers) "content-type" = some kind ↔
      Header.Gives [headers] "Content-Type" kind := by
  have hlower : Text.asciiLowercase "Content-Type" = "content-type" := by decide +kernel
  simp only [find?_lowerHeaders_eq_some_iff h, Header.Gives, Header.heads_singleton,
    Header.sameName_iff, hlower]

/-- The defaults have the kind that a configuration names, and else that of JSON. -/
theorem find?_kind_defaultHeaders {config : Config} (h : config.headers.Ascending) {kind : String}
    (hkind : Header.Gives [config.headers, [("Content-Type", "application/json")]]
      "Content-Type" kind) :
    Dict.find? (defaultHeaders config) "content-type" = some kind := by
  obtain ⟨e, hheads, hname, hvalue⟩ := hkind
  have hgives : Header.Gives [config.requestHeaders] "Content-Type" kind :=
    ⟨e, Config.heads_requestHeaders h (List.mem_cons_of_mem _ List.mem_cons_self) hheads, hname,
      hvalue⟩
  rw [defaultHeaders, Dict.find?_insertAll _ (ascending_lowerHeaders _),
    (find?_kind_lowerHeaders (Config.ascending_requestHeaders config)).mpr hgives]
  rfl

end Wire

namespace Client

variable {setup : ClientSetup} {client : Client} {call : Call} {options : CallOptions}

/-- What is sent for a call names the kind that the call has for its body. -/
theorem kinds_of_sent (hbuild : build setup = .ok client) (hoptions : call.options = .ok options)
    {s : Session (Wire.channel setup.config)} {m : (Wire.channel setup.config).Message}
    (hsent : (client.perform s call).2.sent = s.sent ++ [m]) :
    m.kinds = Wire.kindsOf
      (Dict.find? (Wire.lowerHeaders (setup.baseOptions.layered options).headers) "content-type")
      (Dict.find? (Wire.defaultHeaders setup.config) "content-type")
      (setup.baseOptions.layered options).body := by
  obtain ⟨request, hrequest, hwritten⟩ := writes_of_sent hsent
  obtain ⟨hheaders, hbody⟩ := layered_of_request (madeOf_of_build hbuild) hoptions hrequest
  have hkinds : m.kinds = _ := Wire.kinds_of_encode (show Wire.encode _ _ = .ok m from hwritten)
  rw [hkinds, hheaders, hbody]

/-- The kind that layered options name is that of the caller or else that of the base. -/
theorem find?_kind_layered {base : CallOptions} (hbase : base.headers.Ascending)
    (hoptions : options.headers.Ascending) {kind : String} :
    Dict.find? (Wire.lowerHeaders (base.layered options).headers) "content-type" = some kind ↔
      Header.Gives [options.headers, base.headers] "Content-Type" kind := by
  have horder : (base.layered options).headers.Ascending := Header.ascending_merge hbase _
  rw [Wire.find?_kind_lowerHeaders horder]
  simp only [Header.Gives, CallOptions.layered, Header.heads_merge_cons hoptions]

/--
The message of a call names one kind for a body of JSON, or for none: the one that the call or the
base options have. Where they have none, a body of JSON is `application/json` whatever the
configuration says, and only a message without a body names the kind that is configured, or else
`application/json` too. A form always adds its own kind. A call whose headers are legal is sent if
its request can be built and the kind of its file is one.
-/
theorem kinds_of_message (hbuild : build setup = .ok client)
    (hconfig : setup.config.headers.Ascending) (hbase : setup.baseOptions.headers.Ascending)
    (hoptions : call.options = .ok options) (hcaller : options.headers.Ascending)
    (s : Session (Wire.channel setup.config)) :
    (∀ m : (Wire.channel setup.config).Message, (client.perform s call).2.sent = s.sent ++ [m] →
      (¬Header.Names options.headers "Content-Type" →
        ¬Header.Names setup.baseOptions.headers "Content-Type" →
        (∀ value, (setup.baseOptions.layered options).body = some (.json value) →
          m.kinds = ["application/json"]) ∧
        ((setup.baseOptions.layered options).body = none →
          ∀ kind, Header.Gives [setup.config.headers, [("Content-Type", "application/json")]]
            "Content-Type" kind → m.kinds = [kind]) ∧
        ∀ form, (setup.baseOptions.layered options).body = some (.multipart form) →
          m.kinds = [Wire.formKind]) ∧
      ∀ kind, Header.Gives [options.headers, setup.baseOptions.headers] "Content-Type" kind →
        ((∀ form, (setup.baseOptions.layered options).body ≠ some (.multipart form)) →
          m.kinds = [kind]) ∧
        ∀ form, (setup.baseOptions.layered options).body = some (.multipart form) →
          m.kinds = [kind, Wire.formKind]) ∧
    ∀ request, client.request call = .ok request →
      (∀ e ∈ request.headers, Header.illegal? e.1 e.2 = none) →
      Wire.illegalBody? request.body = none →
      ∃ m, (client.perform s call).2.sent = s.sent ++ [m] := by
  refine ⟨fun m hsent => ?_, fun request hrequest hlegal hbody => ?_⟩
  · have hkinds := kinds_of_sent hbuild hoptions hsent
    refine ⟨fun hcaller' hbase' => ?_, fun kind hkind => ?_⟩
    · have hnone : Dict.find? (Wire.lowerHeaders (setup.baseOptions.layered options).headers)
          "content-type" = none := by
        refine Option.eq_none_iff_forall_ne_some.mpr fun own hown => ?_
        refine Header.not_gives_of_not_names ?_ own ((find?_kind_layered hbase hcaller).mp hown)
        simpa using ⟨hcaller', hbase'⟩
      rw [hnone] at hkinds
      refine ⟨fun value hbody => ?_, fun hbody kind hkind => ?_, fun form hbody => ?_⟩
      · rw [hkinds, hbody]
        rfl
      · rw [hkinds, hbody, Wire.find?_kind_defaultHeaders hconfig hkind]
        rfl
      · rw [hkinds, hbody]
        rfl
    · rw [(find?_kind_layered hbase hcaller).mpr hkind] at hkinds
      refine ⟨fun hbody => ?_, fun form hbody => by rw [hkinds, hbody]; rfl⟩
      rw [hkinds]
      cases hgiven : (setup.baseOptions.layered options).body with
      | none => rfl
      | some body =>
        cases body with
        | json value => rfl
        | multipart form => exact absurd hgiven (hbody form)
  · obtain ⟨m, hwritten⟩ : ∃ m, (Wire.channel setup.config).encode request = .ok m :=
      Wire.exists_encode_eq_ok _ (Header.firstIllegal?_eq_none_iff.mpr hlegal) hbody
    rw [perform_of_encode_eq_ok hrequest hwritten]
    exact ⟨m, rfl⟩

/-- A configuration of a server on this computer that names a kind of body. -/
def vendorConfig : Config :=
  ⟨"http://localhost:9000/api", "api-admin", "t0k", 30000, 3,
    [("content-type", "application/vnd.api+json")]⟩

/-- The options of blocking a subscriber. -/
def blockingOptions : CallOptions :=
  CallOptions.empty.withJson (.obj [("ids", .ofWords [1])])

theorem isLegal_requestHeaders_vendorConfig : ∀ e ∈ vendorConfig.requestHeaders,
    Header.isLegalName e.1 = true ∧ Header.isLegalValue e.2 = true := by
  have hlegal : ∀ e ∈ vendorConfig.headers ++
      [("Authorization", vendorConfig.authorization), ("Content-Type", "application/json")],
      Header.isLegalName e.1 = true ∧ Header.isLegalValue e.2 = true := by
    decide +kernel
  intro e he
  rw [Config.requestHeaders, Config.ofList_standardHeaders] at he
  refine hlegal e (List.mem_append.mpr ?_)
  exact (Header.mem_merge_iff.mp he).imp Header.LastOf.mem And.left

theorem exists_build_vendorConfig : ∃ client, build (.standard vendorConfig) = .ok client :=
  exists_build_standard ⟨_, by rfl⟩ isLegal_requestHeaders_vendorConfig

/-- Blocking a subscriber has a request with a body of JSON, and asking for the state of the server
has one without a body. -/
theorem exists_request_vendorConfig {client : Client}
    (hbuild : build (.standard vendorConfig) = .ok client) :
    (∃ request, client.request (.blocklist [1]) = .ok request ∧ request.headers = [] ∧
      request.body = some (.json (.obj [("ids", .ofWords [1])]))) ∧
    ∃ request, client.request .health = .ok request ∧ request.headers = [] ∧
      request.body = none := by
  have hmade := madeOf_of_build hbuild
  have htable := ClientSetup.table_standard vendorConfig
  constructor
  · have hoptions : (Call.blocklist [1]).options = .ok blockingOptions := rfl
    have hparams : (client.bound .blocklist).pathParams = [] :=
      hmade.pathParams_eq_nil htable (show _ = "blocklistSubscribers" from rfl) (by decide +kernel)
    obtain ⟨url, hrequest⟩ := hmade.exists_request_of_pathParams hoptions hparams
    exact ⟨_, hrequest, rfl, rfl⟩
  · have hoptions : Call.health.options = .ok .empty := rfl
    have hparams : (client.bound .health).pathParams = [] :=
      hmade.pathParams_eq_nil htable (show _ = "getHealthCheck" from rfl) (by decide +kernel)
    obtain ⟨url, hrequest⟩ := hmade.exists_request_of_pathParams hoptions hparams
    exact ⟨_, hrequest, rfl, rfl⟩

/-- A subscriber is blocked with `application/json`, though another kind is configured, and that one
is what the server gets when it is asked for its state. -/
theorem kinds_of_message_vendor :
    ∃ client, build (.standard vendorConfig) = .ok client ∧
      (∃ m : Wire.Message, (client.perform (c := Wire.channel vendorConfig) (.start [])
        (.blocklist [1])).2.sent = [m] ∧ m.kinds = ["application/json"]) ∧
      ∃ m : Wire.Message, (client.perform (c := Wire.channel vendorConfig) (.start [])
        .health).2.sent = [m] ∧ m.kinds = ["application/vnd.api+json"] := by
  obtain ⟨client, hbuild⟩ := exists_build_vendorConfig
  obtain ⟨⟨blocking, hblocking, hheaders, hbody⟩, asking, hasking, hheaders', hbody'⟩ :=
    exists_request_vendorConfig hbuild
  have hconfig : vendorConfig.headers.Ascending := List.pairwise_singleton _ _
  have hkind : Header.Gives [vendorConfig.headers, [("Content-Type", "application/json")]]
      "Content-Type" "application/vnd.api+json" := by
    refine ⟨_, Or.inl ⟨List.mem_cons_self, ?_⟩, ?_, rfl⟩
    · simp [vendorConfig]
    · rw [Header.sameName_eq_toList]
      decide
  have hunnamed : ¬Header.Names [] "Content-Type" := by simp [Header.Names]
  have hblockingOptions : (Call.blocklist [1]).options = .ok blockingOptions := rfl
  have haskingOptions : Call.health.options = .ok .empty := rfl
  refine ⟨client, hbuild, ?_, ?_⟩
  · obtain ⟨hkinds, hsends⟩ := kinds_of_message hbuild hconfig Dict.ascending_nil
      hblockingOptions Dict.ascending_nil (.start [])
    obtain ⟨m, hm⟩ := hsends blocking hblocking (by simp [hheaders]) (by rw [hbody]; rfl)
    exact ⟨m, hm, ((hkinds m hm).1 hunnamed hunnamed).1 _ rfl⟩
  · obtain ⟨hkinds, hsends⟩ := kinds_of_message hbuild hconfig Dict.ascending_nil
      haskingOptions Dict.ascending_nil (.start [])
    obtain ⟨m, hm⟩ := hsends asking hasking (by simp [hheaders']) (by rw [hbody']; rfl)
    exact ⟨m, hm, ((hkinds m hm).1 hunnamed hunnamed).2.1 rfl _ hkind⟩

/-- Not every configured kind reaches the server with a body of JSON. -/
theorem not_configured_kind_of_json :
    ¬∀ (setup : ClientSetup) (client : Client), build setup = .ok client → setup.wired = true →
      setup.config.headers.Ascending →
      ∀ e, Header.LastSpelled setup.config.headers e →
        Header.sameName e.1 "Content-Type" = true →
      ∀ (s : Session (Wire.channel setup.config)) (call : Call) (options : CallOptions) value,
        call.options = .ok options →
        (setup.baseOptions.layered options).body = some (.json value) →
        ¬Header.Names options.headers "Content-Type" →
        ¬Header.Names setup.baseOptions.headers "Content-Type" →
        ∀ m : (Wire.channel setup.config).Message,
          (client.perform s call).2.sent = s.sent ++ [m] → m.kinds = [e.2] := by
  intro hreaches
  obtain ⟨client, hbuild⟩ := exists_build_vendorConfig
  obtain ⟨⟨request, hrequest, hheaders, hbody⟩, -⟩ := exists_request_vendorConfig hbuild
  have hunnamed : ¬Header.Names [] "Content-Type" := by simp [Header.Names]
  have hlast : Header.LastSpelled vendorConfig.headers
      ("content-type", "application/vnd.api+json") := by
    refine ⟨List.mem_cons_self, ?_⟩
    simp [vendorConfig]
  obtain ⟨m, hwritten⟩ : ∃ m, (Wire.channel vendorConfig).encode request = .ok m :=
    Wire.exists_encode_eq_ok _ (by rw [hheaders]; rfl) (by rw [hbody]; rfl)
  have hsent : (client.perform (.start []) (.blocklist [1])).2.sent = [m] := by
    rw [perform_of_encode_eq_ok hrequest hwritten]
    rfl
  have hkinds := hreaches _ client hbuild rfl (List.pairwise_singleton _ _) _ hlast
    (by rw [Header.sameName_eq_toList]; decide) (.start []) (.blocklist [1])
    blockingOptions _ rfl rfl hunnamed hunnamed m hsent
  have hoptions : (Call.blocklist [1]).options = .ok blockingOptions := rfl
  rw [kinds_of_sent hbuild hoptions hsent] at hkinds
  change ["application/json"] = ["application/vnd.api+json"] at hkinds
  exact absurd hkinds (by decide)

end Client

end Mailroom
