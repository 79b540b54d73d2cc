import PhotoSync.Runs.Acknowledged
import PhotoSync.Runs.Deletion
import PhotoSync.Runs.Modified
import PhotoSync.Runs.Sent
import PhotoSync.Runs.OneIntent
import PhotoSync.Runs.Orphans
import PhotoSync.Runs.Claimed
import PhotoSync.Runs.Fragments
import PhotoSync.Runs.Preserved
import PhotoSync.Runs.Winners
import PhotoSync.Runs.Desired
import PhotoSync.Runs.Requested
import PhotoSync.Runs.Rescan
import PhotoSync.Runs.Reported
import PhotoSync.Grid.Window
import PhotoSync.Viewer.Filmstrip
import PhotoSync.Thumbnails.QueueOrder
import PhotoSync.Grid.CanonicalList
import PhotoSync.Native.Graph
import PhotoSync.Runs.Adopted
import PhotoSync.Runs.Chosen
import PhotoSync.Runs.Saved
import PhotoSync.Runs.Retrieved
import PhotoSync.Native.Lease
import PhotoSync.Service.Causes
import PhotoSync.Service.Reset
import PhotoSync.Library.Orientation
