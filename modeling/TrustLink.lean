import TrustLink.Types
import TrustLink.Storage
import TrustLink.Pagination
import TrustLink.Contract
import TrustLink.Run
import TrustLink.Registry
import TrustLink.Lifecycle
import TrustLink.Listing
import TrustLink.Protocol
import TrustLink.Events
import TrustLink.Commutation
