import OmniTun.Relay.ConcurrentWrites
import OmniTun.Relay.ConfigPush
import OmniTun.DataPath.Responses
import OmniTun.DataPath.SharedStream
import OmniTun.DataPath.WebSocket
import OmniTun.DataPath.HandshakeAgreement
import OmniTun.DataPath.Failover
import OmniTun.Gateway.Hello
import OmniTun.Gateway.Commands
import OmniTun.Tunnel.Updates
import OmniTun.Tunnel.Quota
import OmniTun.Api.Isolation
import OmniTun.Auth.SecondFactor
import OmniTun.Auth.PasswordReset
import OmniTun.Auth.APIKeys
import OmniTun.Auth.OidcState
import OmniTun.Gateway.Heartbeats
import OmniTun.Relay.Lifetimes
import OmniTun.Control.StartTunnel
import OmniTun.Control.HttpHandler
import OmniTun.Control.Disconnect
import OmniTun.Api.MeshNetworks
import OmniTun.Foundation.IPv4
import OmniTun.Api.MeshAddresses
import OmniTun.Api.MeshInvites
import OmniTun.Auth.Middleware
import OmniTun.Control.LeaveMesh
import OmniTun.Api.Domains
import OmniTun.Auth.Jwt
import OmniTun.Gateway.TokenAgreement
import OmniTun.Auth.SuperAdmin
import OmniTun.Auth.Scim
import OmniTun.Auth.Registration
import OmniTun.Auth.AccountCreation
import OmniTun.Auth.Directory
import OmniTun.Auth.DirectoryEffects
import OmniTun.Auth.Emails
import OmniTun.Auth.Deprovisioning
import OmniTun.Network.Topology
import OmniTun.Network.WireGuard
import OmniTun.Api.BatchTunnels
import OmniTun.Billing.Usage
import OmniTun.Relay.HttpResponse
import OmniTun.Relay.ResponseCodec
import OmniTun.Relay.ResponseStatus
import OmniTun.Web.ApiClient
import OmniTun.Web.SingleFlight
import OmniTun.Sdk.Requests
import OmniTun.Sdk.RetryPolicy
import OmniTun.Sdk.Decoding
import OmniTun.Sdk.Agreement
import OmniTun.Foundation.Pacing
import OmniTun.Sdk.RateLimit
import OmniTun.Foundation.QueryString
import OmniTun.Auth.LoginUrls
import OmniTun.Network.Turn
import OmniTun.Network.TurnIsolation
import OmniTun.FeatureFlags.Flags
import OmniTun.FeatureFlags.SwitchOff
import OmniTun.Tls.Manager
import OmniTun.Tls.Steps
import OmniTun.Tls.Renewal
import OmniTun.Tls.SingleRenewal
import OmniTun.Client.ConfigFile
import OmniTun.Client.Interference
import OmniTun.Foundation.LongestSuffix
import OmniTun.Relay.HostRouting
import OmniTun.Relay.SharedConnections
import OmniTun.Relay.StreamTable
import OmniTun.Foundation.SliceSort
import OmniTun.Relay.AbandonedHandshake
import OmniTun.Tunnel.RelaySelector
import OmniTun.Foundation.NetAddress
import OmniTun.Network.Stun
import OmniTun.Network.StunGrammar
import OmniTun.Network.StunAgreement
import OmniTun.DataPath.BrokenAnswers
import OmniTun.DataPath.LargeRequests
import OmniTun.Control.LocalDelivery
import OmniTun.Relay.RequestCodec
import OmniTun.Gateway.HubOrgs
import OmniTun.Gateway.Credentials
import OmniTun.Auth.RefreshRotation
import OmniTun.Auth.OneTimePasswords
import OmniTun.Api.TrafficQueries
import OmniTun.Control.Backoff
import OmniTun.Network.StunStandard
import OmniTun.Network.TurnAllocations
import OmniTun.Abuse.Manager
import OmniTun.Abuse.Paging
import OmniTun.Foundation.Networks
import OmniTun.Abuse.Blacklist
import OmniTun.Foundation.TiedPages
import OmniTun.Scim.Handlers
import OmniTun.Scim.Statements
import OmniTun.Scim.Errors
import OmniTun.Scim.RoundTrip
import OmniTun.Scim.Listing
import OmniTun.Roles.Grants
import OmniTun.Foundation.FilePath
import OmniTun.Tls.Disk
import OmniTun.Tls.Paths
import OmniTun.Tls.Storage
import OmniTun.Api.TunnelReports
import OmniTun.Api.Webhooks
import OmniTun.Auth.Slugs
import OmniTun.Foundation.ErasedMarks
import OmniTun.Tls.DomainView
import OmniTun.Foundation.Separator
import OmniTun.Network.RouteKeys
import OmniTun.Client.LocalAddress
import OmniTun.Foundation.Endpoints
import OmniTun.Network.HolePunch
import OmniTun.Foundation.Progress
import OmniTun.Network.NatDetection
import OmniTun.Web.Realtime
import OmniTun.Foundation.Slices
import OmniTun.Api.IPWhitelist
import OmniTun.Gateway.Delivery
import OmniTun.Foundation.Placeholders
import OmniTun.Api.NumberedStatements
