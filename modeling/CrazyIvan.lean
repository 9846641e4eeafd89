import CrazyIvan.Library.Resumption
import CrazyIvan.Library.Linearization
import CrazyIvan.Library.Heap
import CrazyIvan.Cypher.Token
import CrazyIvan.Cypher.Graph
import CrazyIvan.Cypher.Grammar
import CrazyIvan.Cypher.Semantics
import CrazyIvan.Cypher.Rules
import CrazyIvan.Geometry.Rotation
import CrazyIvan.Geometry.Euler
import CrazyIvan.Model.Glm
import CrazyIvan.Model.Transform
import CrazyIvan.Model.Scene
import CrazyIvan.Model.TransformLaws
import CrazyIvan.Model.TransformObject
import CrazyIvan.Model.Copies
import CrazyIvan.Query.BaseQueryHelper
import CrazyIvan.Query.SceneQueryHelper
import CrazyIvan.Query.DeviceQueryHelper
import CrazyIvan.Query.AlgorithmQueryHelper
import CrazyIvan.Query.Statements
import CrazyIvan.Query.SceneStatements
import CrazyIvan.Query.SceneUpdates
import CrazyIvan.Query.RetrieveStatements
import CrazyIvan.Processor.CrudMessageProcessor
import CrazyIvan.Processor.MessageProcessor
import CrazyIvan.Network.Paths
import CrazyIvan.Network.Redirection
import CrazyIvan.Network.Registration
import CrazyIvan.Network.Delivery
import CrazyIvan.Network.Placement
import CrazyIvan.Network.Effects
import CrazyIvan.Network.Types
import CrazyIvan.Network.Messages
import CrazyIvan.Network.Deregistration
import CrazyIvan.Network.Uniqueness
import CrazyIvan.Network.Interleaving
import CrazyIvan.Network.Records
import CrazyIvan.Network.StoredTransforms
import CrazyIvan.Network.Alignment
import CrazyIvan.Network.AlignmentRuns
import CrazyIvan.Network.Failures
import CrazyIvan.Network.Consistency
import CrazyIvan.Network.Isolation
import CrazyIvan.Network.Retrieval
import CrazyIvan.Network.HiddenScenes
import CrazyIvan.Network.Listing
import CrazyIvan.Catalog.Documents
import CrazyIvan.Catalog.Refinement
import CrazyIvan.Catalog.Simulation
import CrazyIvan.Catalog.Interleavings
import CrazyIvan.Cache.DeviceCacheEntry
import CrazyIvan.Cache.DeviceCache
import CrazyIvan.Cache.DeviceMap
import CrazyIvan.Cache.CacheLoader
import CrazyIvan.Network.Texts
import CrazyIvan.Network.SceneDevices
import CrazyIvan.Network.Redelivery
import CrazyIvan.App.EventStream
import CrazyIvan.Library.Json
import CrazyIvan.Api.JsonSceneList
import CrazyIvan.Api.Decoding
import CrazyIvan.Api.RoundTrip
import CrazyIvan.Api.Coordinates
import CrazyIvan.Api.Malformed
import CrazyIvan.Cypher.Brackets
import CrazyIvan.Query.Sentences
import CrazyIvan.Library.Lines
import CrazyIvan.App.IvanUtils
import CrazyIvan.Controller.SceneHandlerFactory
import CrazyIvan.Controller.Authentication
import CrazyIvan.Controller.Routing
import CrazyIvan.Controller.SceneHandlers
import CrazyIvan.Controller.Responses
import CrazyIvan.Controller.Updates
import CrazyIvan.Controller.Server
import CrazyIvan.App.Forwarding
import CrazyIvan.App.EventLoop
import CrazyIvan.App.Application
import CrazyIvan.App.Serial
import CrazyIvan.App.Provenance
import CrazyIvan.App.Loading
import CrazyIvan.App.Reception
import CrazyIvan.App.DatabaseManager
import CrazyIvan.App.Retries
