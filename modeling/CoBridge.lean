import CoBridge.Properties.Exclusivity
import CoBridge.Properties.GraphCount
import CoBridge.Properties.DeadSubscription
import CoBridge.Properties.ChannelConvergence
import CoBridge.Properties.GraphDiff
import CoBridge.Properties.GraphInterleavings
import CoBridge.Properties.ParameterReleases
import CoBridge.Properties.PublishRuns
import CoBridge.Properties.Whitelists
import CoBridge.Properties.TopicStability
import CoBridge.Properties.ServiceReconciliation
import CoBridge.Properties.DeadConnections
import CoBridge.Properties.SendQueueRuns
import CoBridge.Properties.CallbackShutdown
import CoBridge.Properties.ServiceResponses
import CoBridge.Properties.PublishFrames
import CoBridge.Properties.AssetFrames
import CoBridge.Base64
import CoBridge.Properties.ParameterConversions
import CoBridge.Properties.ParameterRoundTrip
import CoBridge.Properties.ParameterIntegers
import CoBridge.Properties.ServiceSchemas
import CoBridge.Properties.MessageDependencies
import CoBridge.Properties.ParameterAttribution
import CoBridge.Properties.ParameterRouting
import CoBridge.Properties.StaleMessages
import CoBridge.Ros2.SubscriptionQos
import CoBridge.Properties.ParameterRetry
import CoBridge.Properties.UpdateBackoff
