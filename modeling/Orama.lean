import Orama.Shamir.Secrecy
import Orama.Shamir.Reshare
import Orama.Shamir.Commitment
import Orama.Vault.Mixing
import Orama.Vault.Rollback
import Orama.Vault.Durability
import Orama.Vault.MigrationSafety
import Orama.Vault.Framing
import Orama.Gateway.Invoke
import Orama.Gateway.Promotion
import Orama.Gateway.Exchange
import Orama.Gateway.ProxyScopes
import Orama.Gateway.WebSocketAuth
import Orama.Gateway.WireGuardRuns
import Orama.PubSub.Isolation
import Orama.Agent.LuksRecovery
import Orama.Agent.Enrollment
import Orama.Agent.VaultAuth
import Orama.Agent.Update
import Orama.Namespace.WebRTCPorts
import Orama.Health.Silence
import Orama.Namespace.Suspicion
import Orama.Namespace.Consistency
import Orama.Namespace.ClusterSize
import Orama.Rqlite.Convergence
import Orama.Rqlite.Cleanup
import Orama.Deployments.Reconcile
import Orama.Gateway.Circuit
import Orama.Gateway.TokenUse
import Orama.Gateway.Logout
import Orama.Serverless.Publish
import Orama.Serverless.Aggregator
import Orama.Serverless.CronScheduler
import Orama.Serverless.EphemeralEvents
import Orama.Serverless.ReactorNames
import Orama.Serverless.RegistryCache
import Orama.Serverless.Deploys
import Orama.Serverless.ModuleCache
import Orama.Serverless.WSManager
import Orama.Serverless.LogQueue
import Orama.Serverless.Identity
import Orama.Sfu.Rooms
import Orama.Vault.Router
import Orama.Dns.Plugin
import Orama.RateLimit
import Orama.PubSub.Connection
import Orama.Gateway.Phantom
import Orama.Push.Ntfy
import Orama.Push.ConfigCache
import Orama.Rqlite.Batch
import Orama.PubSub.Envelope
