import Mailroom.Client.Basic
import Mailroom.Proofs.Call.Table
import Mailroom.Proofs.Config.Validity

/-!
# Making a client

A client is made exactly if the configuration is valid, its headers can be sent where they have to
be, and the table has the operation of every endpoint (`exists_build_eq_ok_iff`). Otherwise the
first fault in that order is the failure (`build_eq_error_iff`).
-/

namespace Mailroom

namespace Header

/-- An entry can be sent exactly if its name and its value are legal. -/
theorem illegal?_eq_none_iff {name value : String} :
    illegal? name value = none ↔ isLegalName name = true ∧ isLegalValue value = true := by
  unfold illegal?
  cases isLegalName name <;> cases isLegalValue value <;> simp

/-- What makes an entry impossible to send is a complaint about headers. -/
theorem invalidHeaders_of_illegal? {name value : String} {e : ConfigError}
    (h : illegal? name value = some e) : ∃ origin reason, e = .invalidHeaders origin reason := by
  unfold illegal? at h
  split at h
  · exact ⟨_, _, (Option.some.inj h).symm⟩
  · split at h
    · exact ⟨_, _, (Option.some.inj h).symm⟩
    · cases h

theorem firstIllegal?_eq_none_iff {headers : HeaderMap} :
    firstIllegal? headers = none ↔ ∀ e ∈ headers, illegal? e.1 e.2 = none :=
  List.findSome?_eq_none_iff

theorem firstIllegal?_eq_some_iff {headers : HeaderMap} {e : ConfigError} :
    firstIllegal? headers = some e ↔ ∃ before entry after, headers = before ++ entry :: after ∧
      illegal? entry.1 entry.2 = some e ∧ ∀ other ∈ before, illegal? other.1 other.2 = none :=
  List.findSome?_eq_some_iff

end Header

namespace ClientSetup

/-- Whether the configured headers can be sent, where they have to be. -/
def Sendable (setup : ClientSetup) : Prop :=
  setup.wired = true → ∀ e ∈ setup.config.requestHeaders, Header.illegal? e.1 e.2 = none

/-- Whether the table has the operation of an endpoint. -/
def Holds (setup : ClientSetup) (e : Endpoint) : Prop :=
  ∃ op, setup.table.get? e.operationName = some op

/-- The first fault of a setup: after those of the configuration the headers are looked at in order,
and then the endpoints. -/
inductive FirstFault (setup : ClientSetup) : ApiError → Prop where
  | config {e : ConfigError} (fault : setup.config.FirstFault e) : FirstFault setup (.config e)
  | header {base : Url} {before after : HeaderMap} {entry : String × String} {e : ConfigError}
      (usable : setup.config.Usable base) (wired : setup.wired = true)
      (order : setup.config.requestHeaders = before ++ entry :: after)
      (legal : ∀ other ∈ before, Header.illegal? other.1 other.2 = none)
      (illegal : Header.illegal? entry.1 entry.2 = some e) : FirstFault setup (.config e)
  | operation {base : Url} {before after : List Endpoint} {e : Endpoint}
      (usable : setup.config.Usable base) (sendable : setup.Sendable)
      (order : Endpoint.all = before ++ e :: after) (held : ∀ other ∈ before, setup.Holds other)
      (missing : ¬setup.Holds e) : FirstFault setup (.missingOperation e.operationName)

/-- The table of a client that is made as usual is the catalogue. -/
theorem table_standard (config : Config) :
    (ClientSetup.standard config).table = Catalog.table := by
  rw [ClientSetup.standard]

/-- The catalogue has the operation of every endpoint. -/
theorem holds_catalog {setup : ClientSetup} (h : setup.table = Catalog.table) (e : Endpoint) :
    setup.Holds e := by
  have hnamed : ∀ e ∈ Endpoint.all, ∃ op ∈ Catalog.operations, op.name = e.operationName := by
    decide +kernel
  obtain ⟨op, hop, hname⟩ := hnamed e e.mem_all
  have hfound := OperationTable.exists_get?_ofOperations hop
  rw [hname, ← Catalog.table, ← h] at hfound
  exact hfound

end ClientSetup

namespace Client

theorem isMissing_eq_true_iff {setup : ClientSetup} {e : Endpoint} :
    isMissing setup.table e = true ↔ ¬setup.Holds e := by
  rw [isMissing, Option.isNone_iff_eq_none, ClientSetup.Holds, ← Option.isSome_iff_exists,
    Option.not_isSome_iff_eq_none]

/-- Every endpoint is bound to its operation in the table. -/
theorem bind_eq_ok {table : OperationTable} {bound : Endpoint → Operation}
    (h : bind table = .ok bound) (e : Endpoint) :
    table.get? e.operationName = some (bound e) := by
  unfold bind at h
  split at h
  · cases h
  · obtain rfl := Except.ok.inj h
    exact (Option.some_get _).symm

/-- Where every endpoint has an operation, all are bound. -/
theorem exists_bind_eq_ok {setup : ClientSetup} (h : ∀ e, setup.Holds e) :
    ∃ bound, bind setup.table = .ok bound := by
  unfold bind
  split
  · next e hmissing =>
    exact absurd (h e) (isMissing_eq_true_iff.mp (List.find?_some hmissing))
  · exact ⟨_, rfl⟩

/-- Binding fails for the first endpoint without an operation. -/
theorem bind_eq_error_iff {setup : ClientSetup} {failure : ApiError} :
    bind setup.table = .error failure ↔ ∃ before e after, Endpoint.all = before ++ e :: after ∧
      (∀ other ∈ before, setup.Holds other) ∧ ¬setup.Holds e ∧
      failure = .missingOperation e.operationName := by
  have hfirst : ∀ e, Endpoint.all.find? (isMissing setup.table) = some e ↔
      ¬setup.Holds e ∧ ∃ before after, Endpoint.all = before ++ e :: after ∧
        ∀ other ∈ before, setup.Holds other := by
    intro e
    simp only [List.find?_eq_some_iff_append, Bool.not_eq_true', ← Bool.not_eq_true,
      isMissing_eq_true_iff, Classical.not_not]
  unfold bind
  split
  · next e hmissing =>
    obtain ⟨hlacks, before, after, horder, hheld⟩ := (hfirst e).mp hmissing
    constructor
    · intro h
      exact ⟨before, e, after, horder, hheld, hlacks, (Except.error.inj h).symm⟩
    · rintro ⟨before', e', after', horder', hheld', hlacks', rfl⟩
      have hmissing' := (hfirst e').mpr ⟨hlacks', before', after', horder', hheld'⟩
      rw [Option.some.inj (hmissing.symm.trans hmissing')]
  · next hnone =>
    refine iff_of_false nofun ?_
    rintro ⟨before, e, after, horder, hheld, hlacks, -⟩
    cases hnone.symm.trans ((hfirst e).mpr ⟨hlacks, before, after, horder, hheld⟩)

theorem illegalHeader?_eq_none_iff {setup : ClientSetup} :
    illegalHeader? setup = none ↔ setup.Sendable := by
  unfold illegalHeader? ClientSetup.Sendable
  split
  · next hwired => simp [hwired, Header.firstIllegal?_eq_none_iff]
  · next hwired => simp [hwired]

theorem illegalHeader?_eq_some_iff {setup : ClientSetup} {e : ConfigError} :
    illegalHeader? setup = some e ↔ setup.wired = true ∧ ∃ before entry after,
      setup.config.requestHeaders = before ++ entry :: after ∧
      Header.illegal? entry.1 entry.2 = some e ∧
      ∀ other ∈ before, Header.illegal? other.1 other.2 = none := by
  unfold illegalHeader?
  split
  · next hwired => simp [hwired, Header.firstIllegal?_eq_some_iff]
  · next hwired => simp [hwired]

/-- What a client has of the setup that it was made of. -/
structure MadeOf (client : Client) (setup : ClientSetup) : Prop where
  usable : setup.config.Usable client.base
  sendable : setup.Sendable
  baseOptions : client.baseOptions = setup.baseOptions
  bound : ∀ e : Endpoint, setup.table.get? e.operationName = some (client.bound e)

/-- A client is made of a setup without faults. -/
theorem madeOf_of_build {setup : ClientSetup} {client : Client} (h : build setup = .ok client) :
    client.MadeOf setup := by
  unfold build at h
  split at h
  · cases h
  · next base hbase =>
    split at h
    · cases h
    · next hlegal =>
      obtain ⟨bound, hbound, rfl⟩ := Outcome.map_eq_ok_iff.mp h
      exact ⟨Config.validate_eq_ok_iff.mp hbase, illegalHeader?_eq_none_iff.mp hlegal, rfl,
        bind_eq_ok hbound⟩

/-- A client of the catalogue has the operations of the catalogue under their names. -/
theorem MadeOf.bound_mem {setup : ClientSetup} {client : Client} (hmade : client.MadeOf setup)
    (h : setup.table = Catalog.table) (e : Endpoint) :
    client.bound e ∈ Catalog.operations ∧ (client.bound e).name = e.operationName := by
  have hbound := hmade.bound e
  rw [h, Catalog.table] at hbound
  exact OperationTable.mem_of_get?_ofOperations hbound

/-- A setup has a client exactly if it has no fault. -/
theorem exists_build_eq_ok_iff {setup : ClientSetup} :
    (∃ client, build setup = .ok client) ↔
      (∃ base, setup.config.Usable base) ∧ setup.Sendable ∧ ∀ e, setup.Holds e := by
  constructor
  · rintro ⟨client, h⟩
    have hmade := madeOf_of_build h
    exact ⟨⟨_, hmade.usable⟩, hmade.sendable, fun e => ⟨_, hmade.bound e⟩⟩
  · rintro ⟨⟨base, husable⟩, hsendable, hholds⟩
    obtain ⟨bound, hbound⟩ := exists_bind_eq_ok hholds
    unfold build
    rw [Config.validate_eq_ok_iff.mpr husable, illegalHeader?_eq_none_iff.mpr hsendable, hbound]
    exact ⟨_, rfl⟩

/-- Making a client fails with the first fault of the setup. -/
theorem build_eq_error_iff {setup : ClientSetup} {failure : ApiError} :
    build setup = .error failure ↔ setup.FirstFault failure := by
  unfold build
  constructor
  · intro h
    split at h
    · next e hvalidate =>
      cases h
      exact .config (Config.validate_eq_error_iff.mp hvalidate)
    · next base hbase =>
      have husable := Config.validate_eq_ok_iff.mp hbase
      split at h
      · next e hillegal =>
        cases h
        obtain ⟨hwired, before, entry, after, horder, hentry, hlegal⟩ :=
          illegalHeader?_eq_some_iff.mp hillegal
        exact .header husable hwired horder hlegal hentry
      · next hlegal =>
        obtain ⟨before, e, after, horder, hheld, hlacks, rfl⟩ :=
          bind_eq_error_iff.mp (Outcome.map_eq_error_iff.mp h)
        exact .operation husable (illegalHeader?_eq_none_iff.mp hlegal) horder hheld hlacks
  · intro h
    cases h with
    | config hfault => rw [Config.validate_eq_error_iff.mpr hfault]
    | header husable hwired horder hlegal hentry =>
      rw [Config.validate_eq_ok_iff.mpr husable,
        illegalHeader?_eq_some_iff.mpr ⟨hwired, _, _, _, horder, hentry, hlegal⟩]
    | operation husable hsendable horder hheld hlacks =>
      rw [Config.validate_eq_ok_iff.mpr husable, illegalHeader?_eq_none_iff.mpr hsendable]
      exact Outcome.map_eq_error_iff.mpr
        (bind_eq_error_iff.mpr ⟨_, _, _, horder, hheld, hlacks, rfl⟩)

end Client

end Mailroom
