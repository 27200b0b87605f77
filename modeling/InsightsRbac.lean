import InsightsRbac.Python.Json
import InsightsRbac.Python.Builtins
import InsightsRbac.Python.Encoder
import InsightsRbac.MigrationTool.Models
import InsightsRbac.MigrationTool.Translation
import InsightsRbac.MigrationTool.SystemRoles
import InsightsRbac.MigrationTool.Matcher
import InsightsRbac.MigrationTool.Mapping
import InsightsRbac.MigrationTool.Agreement
import InsightsRbac.MigrationTool.Migration
import InsightsRbac.MigrationTool.Diagnostics
import InsightsRbac.DualWrite.Handler
import InsightsRbac.DualWrite.Outbox
import InsightsRbac.DualWrite.Replication
import InsightsRbac.DualWrite.Requests
import InsightsRbac.DualWrite.Interleaving
import InsightsRbac.DualWrite.Race
import InsightsRbac.Cache.Redis
import InsightsRbac.Cache.AccessCache
import InsightsRbac.Api.Tenant
