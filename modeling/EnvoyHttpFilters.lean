import EnvoyHttpFilters.Common
import EnvoyHttpFilters.Rbac.Config
import EnvoyHttpFilters.Rbac.Filter
import EnvoyHttpFilters.Rbac.Verdict
import EnvoyHttpFilters.Rbac.Accounting
import EnvoyHttpFilters.Lua.StreamHandle
import EnvoyHttpFilters.Lua.Route
import EnvoyHttpFilters.Lua.Callbacks
