import AisLive.Lib.Transition
import AisLive.Lib.Tokens
import AisLive.Real
import AisLive.Stream.SessionReports
import AisLive.Stream.Lifecycle
import AisLive.Stream.Stop
import AisLive.Stream.Delivery
import AisLive.Stream.Destruction
import AisLive.Stream.Sentences
import AisLive.Stream.Naps
import AisLive.Plugin.Vessels
import AisLive.Plugin.Sessions
import AisLive.Plugin.Display
import AisLive.Plugin.Current
import AisLive.Plugin.TokenMode
import AisLive.Plugin.Position
import AisLive.Plugin.SearchArea
import AisLive.Plugin.Edit
import AisLive.Plugin.Window
import AisLive.WebSocket.Drop
import AisLive.WebSocket.Closings
import AisLive.WebSocket.Arrival
