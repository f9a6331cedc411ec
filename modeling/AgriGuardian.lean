import AgriGuardian.Basis.Machine
import AgriGuardian.Basis.LittleEndian
import AgriGuardian.Basis.Assembly
import AgriGuardian.Basis.Grouping
import AgriGuardian.Basis.Interleaving
import AgriGuardian.Basis.Projection
import AgriGuardian.Basis.PairSum
import AgriGuardian.Basis.Table
import AgriGuardian.Swift.Runtime
import AgriGuardian.Swift.Data
import AgriGuardian.BLE.Datagram
import AgriGuardian.BLE.Message
import AgriGuardian.BLE.MessageReceiver
import AgriGuardian.BLE.Filling
import AgriGuardian.BLE.ManagerSafety
import AgriGuardian.BLE.Reassembly
import AgriGuardian.BLE.KeyIsolation
import AgriGuardian.BLE.LossyChannel
import AgriGuardian.BLE.Peripheral
import AgriGuardian.BLE.Transfer
import AgriGuardian.BLE.AckSoundness
import AgriGuardian.BLE.TransferIsolation
import AgriGuardian.BLE.TransferSequence
import AgriGuardian.BLE.PeripheralScreen
import AgriGuardian.BLE.ReadChains
import AgriGuardian.Rides.RideParameters
import AgriGuardian.Rides.RideDocument
import AgriGuardian.Rides.LoadGPSData
import AgriGuardian.Rides.LoadedRows
import AgriGuardian.Rides.MileageAgreement
import AgriGuardian.Rides.LoadedTimes
import AgriGuardian.Rides.RideOrganization
import AgriGuardian.Rides.RideDetail
import AgriGuardian.Rides.OrganizeUserRides
import AgriGuardian.Rides.Filing
import AgriGuardian.Rides.HistoryPartition
import AgriGuardian.Rides.YearlyHistoryTable
import AgriGuardian.Accounts.Firestore
import AgriGuardian.Accounts.Device
import AgriGuardian.Accounts.LoadChain
import AgriGuardian.Accounts.RideConfinement
import AgriGuardian.Accounts.DeviceOperations
import AgriGuardian.Accounts.CurrentDevice
import AgriGuardian.Accounts.SignIn
import AgriGuardian.Accounts.DeviceList
import AgriGuardian.Accounts.ProfilesScreen
import AgriGuardian.Accounts.ProfileDocuments
import AgriGuardian.Basis.SortedKeys
import AgriGuardian.Rides.HistoryOrder
import AgriGuardian.Rides.HistoryInvariance
import AgriGuardian.Rides.DataManager
import AgriGuardian.Rides.RideDecoding
import AgriGuardian.Rides.DrawnRoute
import AgriGuardian.BLE.FragmentPartition
import AgriGuardian.BLE.FragmentArithmetic
import AgriGuardian.Basis.SinceLast
import AgriGuardian.BLE.Coverage
import AgriGuardian.Accounts.UserProfile
import AgriGuardian.BLE.IndexBase
import AgriGuardian.BLE.InterleavedStreams
import AgriGuardian.Accounts.Tenants
import AgriGuardian.Accounts.TenantAccount
import AgriGuardian.Accounts.DashboardLoad
import AgriGuardian.Accounts.DashboardAccount
import AgriGuardian.Accounts.RideBrowsing
import AgriGuardian.Rides.HistoryNavigation
import AgriGuardian.Rides.HistoryGrowth
import AgriGuardian.Basis.Numerals
import AgriGuardian.Rides.Labels
import AgriGuardian.Accounts.DeviceForm
import AgriGuardian.Accounts.DevicesCollection
import AgriGuardian.Accounts.DevicesSteps
import AgriGuardian.Accounts.PairedDevice
import AgriGuardian.Accounts.Pairing
import AgriGuardian.Accounts.DevicesTraps
