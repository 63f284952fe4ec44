import Aos.Tools.Int64
import Aos.Tools.Binary64
import Aos.Tools.Time
import Aos.Tools.Decimal
import Aos.Tools.ISO8601
import Aos.Monitoring.Types
import Aos.Monitoring.Average
import Aos.Monitoring.AverageBounds
import Aos.Monitoring.AverageTracking
import Aos.Monitoring.AverageConvergence
import Aos.Monitoring.AverageUpdate
import Aos.Monitoring.AverageInit
import Aos.Monitoring.AverageInstances
import Aos.Monitoring.AverageLayout
import Aos.Monitoring.ResourceMonitor
