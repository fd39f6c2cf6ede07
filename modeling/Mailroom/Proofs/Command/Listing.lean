import Mailroom.Proofs.Client.BulkDeletion
import Mailroom.Proofs.Command.OneRequest
import Mailroom.Proofs.Json.Literal
import Mailroom.Proofs.Text.Decimal

/-!
# Parameters of lists

A list is asked for by one message, and the parameters that are given for it stand in the query of
that message, each under the name that its last flag gives. The value of a flag is read as a value
of JSON and written again: a text that is no number stays as it is, a number gets the spelling that
numbers have here, and null and objects are left out. What the root has in its own query stays in
front.
-/

namespace Mailroom

namespace Field

end Field

/-! ## The query of a list -/

namespace Request

end Request

/-- What is listed: records of a kind, or bounces, maybe of one campaign or one source. -/
inductive Listing where
  | records (resource : Resource)
  | bounces (campaign : Option UInt64) (source : Option String)

namespace Listing

/-- The command that lists. -/
def command (l : Listing) (q : PageQuery) : ServerCommand :=
  match l with
  | records r => .records r (.list q)
  | bounces campaign source => .listBounces q campaign source

/-- The call that lists. -/
def call (l : Listing) (options : CallOptions) : Call :=
  match l with
  | records r => .list r options
  | bounces _ _ => .listBounces options

/-- The parameters that are not given as pairs: the page, its size and the filters. -/
def ownEntries (l : Listing) (q : PageQuery) : List (String × Json) :=
  match l with
  | records _ => q.ownEntries
  | bounces campaign source => q.ownEntries ++
      ((campaign.map fun id => ("campaign_id", Json.ofWord id)).toList ++
        (source.map fun s => ("source", Json.str s)).toList)

/-- The options of a list: what is given as pairs, and over it the rest. -/
def options (l : Listing) (q : PageQuery) (entries : List (String × Json)) : CallOptions :=
  { CallOptions.empty with query := Dict.ofList (entries ++ l.ownEntries q) }

/-- The root under options that give a token and nothing else. -/
theorem base_tokenOptions {x : Connection}
    (h : ServerCommand.tokenOptions.connection Invocation.nowhere.environment = .ok x) :
    x.client.base = Client.tenantBase := by
  obtain ⟨-, hconfig, hbuild⟩ := CommonOptions.connection_eq_ok h
  have htoken : ServerCommand.tokenOptions.config Invocation.nowhere.environment =
      .ok ServerCommand.tokenConfig := by rfl
  have hvalidate := Config.validate_eq_ok_iff.mpr (Client.madeOf_of_build hbuild).usable
  change x.config.validate = _ at hvalidate
  rw [← Except.ok.inj (htoken.symm.trans hconfig)] at hvalidate
  have hroot : ServerCommand.tokenConfig.validate = .ok Client.tenantBase := by rfl
  exact Except.ok.inj (hvalidate.symm.trans hroot)

end Listing

end Mailroom
