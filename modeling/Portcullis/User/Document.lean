import Portcullis.User
import Portcullis.Document.Reader

/-! Users in documents. -/
namespace Portcullis.User
open Document

/-- The fields of a user, in the order that a list gives them. -/
def names : List String := ["account_name", "roles", "csrf_token", "logged_in"]

/-- Only the account name has to be given. Roles count once, whatever their order. -/
def ofDatum? (d : Datum) : Option User := do
  match ← d.fields? names with
  | [name, roles, token, loggedIn] =>
    return {
      accountName := ← name.bind Datum.text?
      roles := sortRoles (← Datum.orElse? (Datum.listOf? Datum.text?) [] roles)
      csrfToken := ← Datum.orElse? (Datum.option? Datum.text?) none token
      loggedIn := ← Datum.orElse? Datum.bool? false loggedIn }
  | _ => none

def toDatum (u : User) : Datum :=
  .ofFields ([("account_name", .text u.accountName), ("roles", .ofList (u.roles.map .text))]
    ++ (u.csrfToken.map fun t => ("csrf_token", Datum.text t)).toList ++ [("logged_in", .bool u.loggedIn)])

end Portcullis.User
