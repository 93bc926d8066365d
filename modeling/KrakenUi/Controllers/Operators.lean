import KrakenUi.Controllers.Waf
import KrakenUi.Models.OperatorPages

namespace KrakenUi
namespace Operators

open Pagination

/-!
# The table of the operators

The page that the table of the operators asks for, without any secret.
-/

structure OperatorRow where
  id : Int
  username : String
  email : String
  userType : String
  status : String
  mfa : String
  createdAt : Int
  deriving DecidableEq

def operatorRow (operator : Operator) : OperatorRow :=
  { id := operator.idUser
    username := operator.username
    email := operator.email
    userType := operator.operatorType
    status := "active"
    mfa := if operator.mfaEnabled ≠ 0 then "on" else "off"
    createdAt := operator.createdAt }

variable (clean : String -> String)

/-- `api_operators`, on the rows of the table.  The parameters are read as for the attacks. -/
def apiOperators (rows : List Operator) (query : Query) : PageResponse OperatorRow :=
  let page := OperatorPage.page rows (parseQueryU64 query "start" 0) (Waf.length query)
    (Waf.search clean query)
  { draw := parseQueryU64 query "draw" 1
    recordsTotal := page.recordsTotal
    recordsFiltered := page.recordsFiltered
    data := page.operators.map operatorRow }

end Operators
end KrakenUi
