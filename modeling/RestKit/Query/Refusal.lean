import RestKit.Api.Error
import RestKit.Query.Error
/-!
# Refused queries

How clients see a query that is refused.
-/
namespace RestKit.Query

/-- A mixed projection has a code of its own and names the fields. -/
def QueryError.toApi : QueryError → ApiError
  | .mixedProjection names =>
    { status := 400, code := "FILTER_CANNOT_MIX_INCLUSION_EXCLUSION"
      message := "Filter fields cannot mix inclusion and exclusion"
      details := some (.object [("fields", .array (names.map .string))]) }
  | e => { status := 400, code := "INVALID_FILTER", message := e.message }

end RestKit.Query
