import PjsipClient.Error
import PjsipClient.Lib.Bytes
import PjsipClient.Lib.Channel
import PjsipClient.Lib.Lease
import PjsipClient.Lib.Machine
import PjsipClient.Lib.Ranking
import PjsipClient.Lib.Refinement
import PjsipClient.Lib.Safety
import PjsipClient.Lib.System
import PjsipClient.Lib.Ticks
import PjsipClient.Lib.Tracked
import PjsipClient.Pjmedia.AudioSink
import PjsipClient.Pjmedia.AudioStream
import PjsipClient.Pjmedia.Format
import PjsipClient.Pjmedia.FormatArithmetic
import PjsipClient.Pjmedia.Frame
import PjsipClient.Pjmedia.Relay
import PjsipClient.Pjmedia.Samples
import PjsipClient.Pjmedia.StreamPort
import PjsipClient.Pjmedia.StreamSend
import PjsipClient.Pjmedia.StreamSession
import PjsipClient.Pjmedia.Timestamps
import PjsipClient.PjsuaAccountConfig.Config
import PjsipClient.PjsuaAccountConfig.Delivery
import PjsipClient.PjsuaAccountConfig.Freed
import PjsipClient.PjsuaAccountConfig.Isolation
import PjsipClient.PjsuaAccountConfig.UserData
import PjsipClient.PjsuaCall.Bridge
import PjsipClient.PjsuaCall.Dropping
import PjsipClient.PjsuaCall.Handshake
import PjsipClient.PjsuaCall.Hookup
import PjsipClient.PjsuaCall.Identity
import PjsipClient.PjsuaCall.Object
import PjsipClient.PjsuaCall.PortData
import PjsipClient.PjsuaCall.Progress
import PjsipClient.PjsuaCall.Setup
import PjsipClient.PjsuaCall.Slots
import PjsipClient.PjsuaCall.Termination
import PjsipClient.PjsuaCall.Types
import PjsipClient.PjsuaCall.UserData
import PjsipClient.PjsuaCall.Waiting
import PjsipClient.PjsuaCall.World
import PjsipClient.PjsuaConfig.Callbacks
import PjsipClient.PjsuaConfig.MediaCallbacks
import PjsipClient.PjsuaMemoryPool.Store
import PjsipClient.PjsuaSoftphoneApi.Instance
import PjsipClient.PjsuaSoftphoneApi.Lifecycle
import PjsipClient.TokioUtils.Threads
