import GraphQLCache.Json.Basic
import GraphQLCache.Mock.Clock

/-!
# Scalar defaults — a value for every scalar, by its name

Well-known scalars have a default of their own and all others the empty string. Dates and times come from
the clock that is handed in.
-/

namespace GraphQLCache

/-- The default of the scalar `name`. -/
def scalarDefault (clock : Clock) (name : String) : Json :=
  match name with
  | "Int" | "BigInt" | "Long" => .int 0
  | "Float" => .float 0.0
  | "Boolean" => .bool false
  | "Date" => .str clock.date
  | "DateTime" => .str clock.timestamp
  | "Time" => .str "12:00:00"
  | "JSON" | "JSONObject" => .str "\x7b\x7d"
  | "Decimal" => .str "0.00"
  | "URL" | "URI" => .str "https://example.com"
  | "Email" => .str "user@example.com"
  | "UUID" => .str "00000000-0000-0000-0000-000000000000"
  | _ => .str ""

end GraphQLCache
