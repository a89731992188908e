import MixinSafe.Common.Encoding
import MixinSafe.Common.Constants
import MixinSafe.Common.Codec
import MixinSafe.Apps.Bitcoin.Wire
import MixinSafe.Apps.Ethereum.Account
import MixinSafe.Keeper.Network
import MixinSafe.Keeper.NetworkInvariant
import MixinSafe.Keeper.Store
import MixinSafe.Observer.Store
import MixinSafe.Observer.StoreInvariant
import MixinSafe.Observer.FeeInput
import MixinSafe.Observer.Combine
import MixinSafe.Observer.PriceInfo
import MixinSafe.Signer.Store
import MixinSafe.Signer.Node
import MixinSafe.Signer.Operation
import MixinSafe.Keeper.Request
import MixinSafe.Signer.Framing
import MixinSafe.Signer.Session
import MixinSafe.Signer.Replay
import MixinSafe.Signer.Sign
import MixinSafe.Signer.SessionInvariant
import MixinSafe.Signer.Results
