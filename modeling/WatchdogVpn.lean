import WatchdogVpn.Provisioning.Outcomes
import WatchdogVpn.Provisioning.WriteAhead
import WatchdogVpn.Provisioning.Document
import WatchdogVpn.Provisioning.Revocation
import WatchdogVpn.Provisioning.RemovalLoop
import WatchdogVpn.Rotation.Spacing
import WatchdogVpn.Firewall.Iptables
import WatchdogVpn.OpenVpn.Reader
import WatchdogVpn.Drivers.Teardown
import WatchdogVpn.Rules.Pinning
import WatchdogVpn.SingBox.Threaded
import WatchdogVpn.SingBox.FakeIp
import WatchdogVpn.Backup.Atomicity
import WatchdogVpn.Backup.Acceptance
import WatchdogVpn.Providers.Subscription
import WatchdogVpn.Runtime.Standby
import WatchdogVpn.Runtime.Declined
import WatchdogVpn.Runtime.HealthRecord
import WatchdogVpn.Daemon.Accounting
import WatchdogVpn.Compat.StrictPriority
import WatchdogVpn.Dns.PutBack
import WatchdogVpn.Rotation.Backoff
import WatchdogVpn.Rules.Placement
import WatchdogVpn.NetworkContext.Listing
