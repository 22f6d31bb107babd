import Mls4rn.Lib.Execution
import Mls4rn.Lib.InsertionMap
import Mls4rn.Lib.RestrictedMap
import Mls4rn.Lib.Utf16
import Mls4rn.Lib.ByteString
import Mls4rn.Lib.Utf8
import Mls4rn.Lib.UriComponent
import Mls4rn.Lib.PosixPath
import Mls4rn.Lib.Base64
import Mls4rn.Lib.JsonString
import Mls4rn.Lib.NumberText
import Mls4rn.Lib.Json
import Mls4rn.Lib.EcmaScript
import Mls4rn.Lib.PlainObject
import Mls4rn.Lib.Throwing
import Mls4rn.Lib.Lists
import Mls4rn.Lib.Lanes
import Mls4rn.Lib.ArrayHeap
import Mls4rn.Lib.Ascending
import Mls4rn.Lib.ParseInt
import Mls4rn.Core.SnapshotEnvelope
import Mls4rn.Core.ProviderSnapshot
import Mls4rn.Core.SnapshotSafety
import Mls4rn.Core.MlsGroup
import Mls4rn.Core.GroupFacade
import Mls4rn.Core.EnvelopeGrammar
import Mls4rn.Core.HexText
import Mls4rn.Core.TextMessages
import Mls4rn.Core.WasmTraps
import Mls4rn.Core.RemovalByName
import Mls4rn.Core.EpochAgreement
import Mls4rn.Core.FileStorage
import Mls4rn.Core.FileNames
import Mls4rn.Core.IndexedDbStorage
import Mls4rn.Core.PersistentClient
import Mls4rn.Core.ClientObject
import Mls4rn.Core.ClientRefinement
import Mls4rn.Core.ConcurrentOpen
import Mls4rn.ReactNative.HostStore
import Mls4rn.ReactNative.HostTasks
import Mls4rn.ReactNative.SnapshotDurability
import Mls4rn.ReactNative.Persistence
import Mls4rn.ReactNative.SharedPage
import Mls4rn.ReactNative.OverlappingSaves
import Mls4rn.ReactNative.RequestBridge
import Mls4rn.ReactNative.InjectedScript
import Mls4rn.ReactNative.Base64Codec
import Mls4rn.ReactNative.CoreApi
import Mls4rn.ReactNative.HostDispatch
import Mls4rn.ReactNative.BridgeEndpoints
import Mls4rn.ReactNative.BridgeQuiescence
import Mls4rn.ReactNative.HandleIdentity
import Mls4rn.ReactNative.Facade
import Mls4rn.ReactNative.FacadeSimulation
import Mls4rn.ReactNative.FacadeRefinement
import Mls4rn.ReactNative.HostPage
import Mls4rn.ReactNative.InMemoryClients
import Mls4rn.Server.HttpException
import Mls4rn.Server.GroupsService
import Mls4rn.Server.GroupsController
import Mls4rn.Server.GroupsGateway
import Mls4rn.Server.KeyPackages
import Mls4rn.Server.Welcomes
import Mls4rn.Server.BlindRelay
import Mls4rn.Lib.InOrderTree
import Mls4rn.Lib.WireFormat
import Mls4rn.Lib.Derivation
import Mls4rn.OpenMls.TreeMath
import Mls4rn.OpenMls.KeyDerivation
import Mls4rn.Lib.Triples
import Mls4rn.OpenMls.SenderRatchet
import Mls4rn.OpenMls.SecretTree
import Mls4rn.OpenMls.SecretTreeRuns
import Mls4rn.OpenMls.ForwardSecrecy
import Mls4rn.OpenMls.SecretTreeWindows
import Mls4rn.OpenMls.Framing
import Mls4rn.OpenMls.PrivateMessage
import Mls4rn.OpenMls.PastSecrets
import Mls4rn.OpenMls.GroupMessages
import Mls4rn.OpenMls.GroupSecrets
import Mls4rn.OpenMls.GroupClients
import Mls4rn.OpenMls.GroupRuns
import Mls4rn.OpenMls.GroupDelivery
